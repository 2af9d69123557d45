import XdotViewer.Proofs.Drawing.Endless
import XdotViewer.Proofs.Images.Outcomes
import XdotViewer.Proofs.Viewer.Reachable

/-! # The last outcome

While images are pending, outcomes come in any order and may be repeated. The one call that
completes the registry paints the document again; the calls before it and after it paint nothing. So
it is the one call that may be endless, and it is if the document has an endless stroke.
-/

namespace XdotViewer

namespace Viewer

variable {ι : Type} {viewer : Viewer ι} {fits : Nat → Nat → Bool}

/-- What a call answers and paints. An endless call never comes to give its answer. -/
structure Answer (ι : Type) where
  value : Except ViewerError Bool
  ops : List (DrawOp ι)
  endless : Bool

/-- Hands in outcomes one after the other: the answer of each call, and the viewer in the end. -/
def finishImages (fits : Nat → Nat → Bool) : Viewer ι → List (String × Option ι) →
    List (Answer ι) × Viewer ι
  | viewer, [] => ([], viewer)
  | viewer, call :: rest =>
    let result := viewer.finishImage fits call.1 call.2
    let (answers, last) := finishImages fits result.viewer rest
    (⟨result.value, result.ops, result.endless⟩ :: answers, last)

/-- The answers of calls that paint nothing. -/
def silent (calls : List (String × Option ι)) : List (Answer ι) :=
  calls.map fun _ => ⟨.ok false, [], false⟩

/-- Silent answers paint nothing. -/
theorem ops_silent (calls : List (String × Option ι)) :
    (silent calls).flatMap Answer.ops = [] := by
  simp [silent]

/-- None of the silent answers is endless. -/
theorem any_silent (calls : List (String × Option ι)) :
    (silent calls).any Answer.endless = false := by
  simp [silent]

private theorem endless_of_mem_silent {calls : List (String × Option ι)} {answer : Answer ι}
    (member : answer ∈ silent calls) : answer.endless = false := by
  obtain ⟨_, -, rfl⟩ := List.mem_map.mp member
  rfl

private theorem finishImages_append (first second : List (String × Option ι)) :
    viewer.finishImages fits (first ++ second) =
      let begun := viewer.finishImages fits first
      let ended := begun.2.finishImages fits second
      (begun.1 ++ ended.1, ended.2) := by
  induction first generalizing viewer with
  | nil => rfl
  | cons call rest ih =>
    simp only [List.cons_append, finishImages, ih]

section Calls

variable {source : String} {outcome : Option ι} {images : Images ι}

/-- An outcome that is not the last one is noted. -/
theorem finishImage_of_not_last
    (noted : viewer.drawing.images.finish source outcome = (false, images)) :
    viewer.finishImage fits source outcome = ⟨.ok false, [], viewer.withImages images, false⟩ := by
  simp only [finishImage, noted]
  rfl

/-- The last outcome is noted, and the document is painted again. -/
theorem finishImage_of_last {document : Document} (loaded : viewer.document = some document)
    (noted : viewer.drawing.images.finish source outcome = (true, images)) :
    let painted := (viewer.withImages images).redraw fits false
    viewer.finishImage fits source outcome =
      ⟨.ok true, painted.ops, painted.viewer, painted.endless⟩ := by
  simp only [finishImage, noted, if_true, withImages, redraw, loaded]
  rfl

/-- As long as a pending source waits, nothing is painted. -/
theorem finishImages_of_waiting {calls : List (String × Option ι)}
    (counted : viewer.drawing.images.Counted)
    (pending : viewer.drawing.images.state? source = some .pending)
    (waits : source ∉ calls.map Prod.fst) :
    viewer.finishImages fits calls =
      (silent calls, viewer.withImages (viewer.drawing.images.finishAll calls)) := by
  induction calls generalizing viewer with
  | nil => rfl
  | cons call rest ih =>
    rw [List.map_cons, List.mem_cons, not_or] at waits
    have waiting : (viewer.drawing.images.finish call.1 call.2).1 = false := by
      rw [Bool.eq_false_iff, ne_eq, counted.finish_iff]
      rintro ⟨-, only⟩
      exact waits.1 (only source pending)
    have still : (viewer.drawing.images.finish call.1 call.2).2.state? source = some .pending :=
      (Images.state?_finish_of_ne waits.1).trans pending
    have later := @ih (viewer.withImages (viewer.drawing.images.finish call.1 call.2).2)
      (counted.finish call.1 call.2) still waits.2
    rw [finishImages, finishImage_of_not_last (Prod.ext waiting rfl), later]
    rfl

/-- Once nothing that is named is pending, nothing is painted and nothing changes. -/
theorem finishImages_of_settled {calls : List (String × Option ι)}
    (settled : ∀ call ∈ calls, viewer.drawing.images.state? call.1 ≠ some .pending) :
    viewer.finishImages fits calls = (silent calls, viewer) := by
  induction calls with
  | nil => rfl
  | cons call rest ih =>
    have known : viewer.drawing.images.finish call.1 call.2 = (false, viewer.drawing.images) :=
      Images.finish_of_not_pending (settled call List.mem_cons_self)
    have later := ih fun other member => settled other (List.mem_cons_of_mem _ member)
    rw [finishImages, finishImage_of_not_last known]
    change (_ :: (viewer.finishImages fits rest).1, (viewer.finishImages fits rest).2) = _
    rw [later]
    rfl

end Calls

section Runs

variable {front back : List (String × Option ι)} {call : String × Option ι}

/-- A repaint asks for new images at most: what is settled before it is settled after it. -/
theorem state?_redraw_ne_pending {source : String} (full : Bool)
    (listed : source ∈ viewer.drawing.images.entries.keys)
    (settled : viewer.drawing.images.state? source ≠ some .pending) :
    (viewer.redraw fits full).viewer.drawing.images.state? source ≠ some .pending := by
  obtain ⟨sources, asked⟩ := viewer.exists_images_redraw fits full
  obtain ⟨state, known⟩ := OrderedMap.exists_get?_of_mem_keys listed
  have kept := Images.state?_requestAll_of_known known sources
  have same : viewer.drawing.images.state? source = some state := known
  rw [asked, kept, ← same]
  exact settled

/-- The completing call paints the document, with the first outcomes of all pending sources. -/
theorem finishImages_of_completing (sound : viewer.Sound)
    (completing : viewer.drawing.images.Completing front call)
    (registered : ∀ other ∈ back, other.1 ∈ viewer.drawing.images.entries.keys) :
    let painted := (viewer.withImages
      (viewer.drawing.images.finishAll (front ++ call :: back))).redraw fits false
    viewer.finishImages fits (front ++ call :: back) =
      (silent front ++ ⟨.ok true, painted.ops, painted.endless⟩ :: silent back,
        painted.viewer) := by
  obtain ⟨document, loaded⟩ :=
    sound.exists_document (OrderedMap.mem_keys_of_get? completing.pending)
  have settled (source : String) :
      (viewer.drawing.images.finishAll (front ++ [call])).state? source ≠ some .pending :=
    Images.state?_finishAll_ne_pending (completing.covered source)
  have whole : viewer.drawing.images.finishAll (front ++ call :: back) =
      viewer.drawing.images.finishAll (front ++ [call]) := by
    rw [List.append_cons, Images.finishAll_append]
    exact Images.finishAll_of_settled fun other _ => settled other.1
  rw [whole]
  intro painted
  -- Before the completing call its source is still waiting.
  have before : viewer.finishImages fits front =
      (silent front, viewer.withImages (viewer.drawing.images.finishAll front)) :=
    finishImages_of_waiting sound.counted completing.pending completing.first
  have last : (viewer.drawing.images.finishAll front).finish call.1 call.2 =
      (true, viewer.drawing.images.finishAll (front ++ [call])) :=
    Prod.ext (completing.last sound.counted) (Images.finishAll_append front [call]).symm
  have here : (viewer.withImages (viewer.drawing.images.finishAll front)).finishImage fits
      call.1 call.2 = ⟨.ok true, painted.ops, painted.viewer, painted.endless⟩ :=
    finishImage_of_last loaded last
  -- No call after it names a source that is still pending.
  have after : painted.viewer.finishImages fits back = (silent back, painted.viewer) := by
    apply finishImages_of_settled
    intro other member
    apply state?_redraw_ne_pending false _ (settled other.1)
    exact (Images.keys_finishAll _).symm ▸ registered other member
  rw [finishImages_append, before]
  simp only [finishImages]
  rw [here]
  change (_ ++ _ :: (painted.viewer.finishImages fits back).1,
    (painted.viewer.finishImages fits back).2) = _
  rw [after]

private theorem ops_redraw_ne_nil {document : Document} (loaded : viewer.document = some document) :
    (viewer.redraw fits false).ops ≠ [] := by
  simp [redraw, loaded, Drawing.pass, Drawing.repaint, Setting.repaint, Setting.framed]

/-- A repaint is endless or not, however far the images are. -/
theorem endless_redraw_withImages {document : Document} (loaded : viewer.document = some document)
    (images : Images ι) : ((viewer.withImages images).redraw fits false).endless = true ↔
      ∃ stretch ∈ viewer.drawing.stretches fits document viewer.palettes false,
        (viewer.drawing.setting document viewer.palettes).Endless stretch := by
  rw [← Drawing.endless_pass]
  simp only [redraw, withImages, loaded]
  exact Bool.eq_iff_iff.mp (Drawing.endless_pass_of_options rfl)

section Completes

variable (sound : viewer.Sound) (fits : Nat → Nat → Bool) {source : String}
  (pending : viewer.drawing.images.state? source = some .pending)
  {calls : List (String × Option ι)} (completes : viewer.drawing.images.Completes calls)
include sound pending completes

/-- With an outcome for every pending image, repeated or not, one call paints: the first with which
all pending images have an outcome. -/
theorem exists_finishImages_eq :
    let images := viewer.drawing.images
    let painted := (viewer.withImages (images.finishAll calls)).redraw fits false
    ∃ front call back, calls = front ++ call :: back ∧ images.Completing front call ∧
      viewer.finishImages fits calls =
        (silent front ++ ⟨.ok true, painted.ops, painted.endless⟩ :: silent back,
          painted.viewer) := by
  obtain ⟨front, call, back, rfl, completing⟩ :=
    Images.exists_completing pending completes.covered
  have registered (other : String × Option ι) (member : other ∈ back) :
      other.1 ∈ viewer.drawing.images.entries.keys :=
    completes.registered other
      (List.mem_append_right front (List.mem_cons_of_mem call member))
  exact ⟨front, call, back, rfl, completing,
    finishImages_of_completing sound completing registered⟩

/-- One of the calls is endless exactly if the document has an endless stroke. -/
theorem exists_endless_answer_iff :
    (∃ answer ∈ (viewer.finishImages fits calls).1, answer.endless = true) ↔
      ∃ document, viewer.document = some document ∧
        ∃ stretch ∈ viewer.drawing.stretches fits document viewer.palettes false,
          (viewer.drawing.setting document viewer.palettes).Endless stretch := by
  obtain ⟨document, loaded⟩ := sound.exists_document (OrderedMap.mem_keys_of_get? pending)
  obtain ⟨front, call, back, -, -, run⟩ := exists_finishImages_eq sound fits pending completes
  simp only [loaded, Option.some.injEq, exists_eq_left']
  rw [← endless_redraw_withImages loaded (viewer.drawing.images.finishAll calls), run]
  constructor
  · rintro ⟨answer, member, endless⟩
    rcases List.mem_append.mp member with before | here
    · rw [endless_of_mem_silent before] at endless
      cases endless
    · rcases List.mem_cons.mp here with rfl | after
      · exact endless
      · rw [endless_of_mem_silent after] at endless
        cases endless
  · exact fun endless => ⟨_, List.mem_append_right _ List.mem_cons_self, endless⟩

end Completes

/-- With an outcome for every pending image, repeated or not, one call paints: the first with which
all pending images have an outcome. Each call succeeds, unless the document has an endless stroke:
then the painting does not end. What it paints and the registry in the end depend on the first
outcomes of the pending images, and not on their order. -/
theorem repaints_once (reachable : viewer.Reachable) (fits : Nat → Nat → Bool) {source : String}
    (pending : viewer.drawing.images.state? source = some .pending)
    {calls : List (String × Option ι)} (completes : viewer.drawing.images.Completes calls) :
    let images := viewer.drawing.images
    let painted := (viewer.withImages (images.finishAll calls)).redraw fits false
    (∃ front call back, calls = front ++ call :: back ∧ images.Completing front call ∧
      viewer.finishImages fits calls =
        (silent front ++ ⟨.ok true, painted.ops, painted.endless⟩ :: silent back,
          painted.viewer)) ∧
    ((∃ answer ∈ (viewer.finishImages fits calls).1, answer.endless = true) ↔
      ∃ document, viewer.document = some document ∧
        ∃ stretch ∈ viewer.drawing.stretches fits document viewer.palettes false,
          (viewer.drawing.setting document viewer.palettes).Endless stretch) ∧
    painted.ops ≠ [] ∧
    ∀ others, images.Completes others →
      (∀ source, images.state? source = some .pending →
        others.lookup source = calls.lookup source) →
      (viewer.finishImages fits others).1.flatMap Answer.ops =
        (viewer.finishImages fits calls).1.flatMap Answer.ops ∧
      (viewer.finishImages fits others).2.drawing.images =
        (viewer.finishImages fits calls).2.drawing.images := by
  intro images painted
  have sound := reachable.sound
  obtain ⟨document, loaded⟩ := sound.exists_document (OrderedMap.mem_keys_of_get? pending)
  refine ⟨exists_finishImages_eq sound fits pending completes,
    exists_endless_answer_iff sound fits pending completes, ops_redraw_ne_nil loaded, ?_⟩
  intro others complete same
  obtain ⟨front, call, back, -, -, run⟩ := exists_finishImages_eq sound fits pending completes
  obtain ⟨front', call', back', -, -, run'⟩ := exists_finishImages_eq sound fits pending complete
  rw [Images.finishAll_eq_of_lookup sound.counted same] at run'
  rw [run, run']
  refine ⟨?_, rfl⟩
  simp only [List.flatMap_append, List.flatMap_cons, ops_silent]

/-- A viewer whose document asks for two images. -/
def twoImages : Viewer Unit :=
  ((Viewer.new {}).load (fun _ _ => true)
    "digraph \x7b bb=\"0,0,9,9\"; _draw_=\"I 0 0 1 1 1 -a I 0 0 1 1 1 -b\"; \x7d").viewer

/-- The outcomes in one order with a repetition, and in the other without one. -/
theorem repaints_once_twoImages :
    let calls : List (String × Option Unit) := [("b", none), ("a", some ()), ("a", none)]
    let others : List (String × Option Unit) := [("a", some ()), ("b", none)]
    let fits := fun (_ _ : Nat) => true
    twoImages.Reachable ∧ twoImages.drawing.images.state? "a" = some .pending ∧
      twoImages.drawing.images.Completes calls ∧ twoImages.drawing.images.Completes others ∧
      (twoImages.finishImages fits others).1.flatMap Answer.ops =
        (twoImages.finishImages fits calls).1.flatMap Answer.ops ∧
      (twoImages.finishImages fits others).2.drawing.images =
        (twoImages.finishImages fits calls).2.drawing.images := by
  intro calls others fits
  have reachable : twoImages.Reachable := .load _ _ (.new _)
  have keys : twoImages.drawing.images.entries.keys = ["a", "b"] := by decide +kernel
  have pending : twoImages.drawing.images.state? "a" = some .pending := by decide +kernel
  have listed {source : String} (waits : twoImages.drawing.images.state? source = some .pending) :
      source = "a" ∨ source = "b" := by
    have member := OrderedMap.mem_keys_of_get? waits
    rw [keys] at member
    simpa using member
  have complete (calls : List (String × Option Unit))
      (named : ∀ call ∈ calls, call.1 ∈ ["a", "b"]) (a : "a" ∈ calls.map Prod.fst)
      (b : "b" ∈ calls.map Prod.fst) : twoImages.drawing.images.Completes calls := by
    refine ⟨fun call member => keys ▸ named call member, fun source waits => ?_⟩
    rcases listed waits with rfl | rfl
    · exact a
    · exact b
  have first : twoImages.drawing.images.Completes calls :=
    complete calls (by decide) (by decide) (by decide)
  have second : twoImages.drawing.images.Completes others :=
    complete others (by decide) (by decide) (by decide)
  obtain ⟨-, -, -, alike⟩ := repaints_once reachable fits pending first
  refine ⟨reachable, pending, first, second, alike others second fun source waits => ?_⟩
  rcases listed waits with rfl | rfl <;> rfl

/-- A viewer that waits for an image while it has a document with a dashed line that is too long. -/
def parsedDash : Viewer Unit :=
  (((Viewer.new {}).load (fun _ _ => true)
    "digraph \x7b bb=\"0,0,9,9\"; _draw_=\"I 0 0 1 1 1 -a\"; \x7d").viewer.parse
    "digraph \x7b _draw_=\" S 6 -dashed L 2 0 0 1e17 0\"; \x7d").viewer

/-- The outcome for the image is handed in, and that call never answers. -/
theorem endless_finishImages_parsedDash :
    let calls : List (String × Option Unit) := [("a", some ())]
    parsedDash.Reachable ∧ parsedDash.drawing.images.state? "a" = some .pending ∧
      parsedDash.drawing.images.Completes calls ∧
      ∃ answer ∈ (parsedDash.finishImages (fun _ _ => true) calls).1, answer.endless = true := by
  intro calls
  have reachable : parsedDash.Reachable := .parse _ (.load _ _ (.new _))
  have keys : parsedDash.drawing.images.entries.keys = ["a"] := by decide +kernel
  have pending : parsedDash.drawing.images.state? "a" = some .pending := by decide +kernel
  have complete : parsedDash.drawing.images.Completes calls := by
    refine ⟨fun call member => ?_, fun source waits => ?_⟩
    · cases List.mem_singleton.mp member
      exact keys ▸ List.mem_cons_self
    · have member := OrderedMap.mem_keys_of_get? waits
      rw [keys] at member
      exact member
  have drawn : parsedDash.document.map (fun document =>
      (document.metadata.height, document.scene.drawStrings.map DrawString.text)) =
        some (0.0, [longDash]) := by decide +kernel
  have length : parsedDash.drawing.options.dashLength = 6.0 := by decide +kernel
  obtain ⟨document, loaded, shape⟩ := Option.map_eq_some_iff.mp drawn
  obtain ⟨height, texts⟩ := Prod.mk.inj shape
  have listed : longDash ∈ document.scene.drawStrings.map DrawString.text :=
    texts ▸ List.mem_cons_self
  have endless := Drawing.exists_endless_repaint height length listed (fun _ _ => true)
    parsedDash.palettes
  exact ⟨reachable, pending, complete,
    (exists_endless_answer_iff reachable.sound _ pending complete).mpr ⟨document, loaded, endless⟩⟩

end Runs

end Viewer
end XdotViewer
