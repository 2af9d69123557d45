import XdotViewer.Proofs.Drawing.History
import XdotViewer.Viewer

/-! # Reachable viewers

A viewer is reachable if it comes out of a new one by the actions that its users have. Its registry
counts right, and it knows no image before it has a document.
-/

namespace XdotViewer

namespace Viewer

variable {ι : Type} {viewer : Viewer ι}

def withImages (viewer : Viewer ι) (images : Images ι) : Viewer ι :=
  { viewer with drawing := { viewer.drawing with images } }

/-- Drawing again asks for images and does nothing else to the registry. -/
theorem exists_images_redraw (viewer : Viewer ι) (fits : Nat → Nat → Bool) (full : Bool) :
    ∃ sources, (viewer.redraw fits full).viewer.drawing.images =
      viewer.drawing.images.requestAll sources := by
  unfold redraw
  split
  · exact ⟨[], rfl⟩
  · exact viewer.drawing.exists_images_pass fits _ viewer.palettes full

/-- Viewers that come out of a new one. -/
inductive Reachable : Viewer ι → Prop where
  | new (options : Options) : Reachable (.new options)
  | load {viewer : Viewer ι} (fits : Nat → Nat → Bool) (text : String) :
    Reachable viewer → Reachable (viewer.load fits text).viewer
  | parse {viewer : Viewer ι} (text : String) :
    Reachable viewer → Reachable (viewer.parse text).viewer
  | redraw {viewer : Viewer ι} (fits : Nat → Nat → Bool) (full : Bool) :
    Reachable viewer → Reachable (viewer.redraw fits full).viewer
  | setScale {viewer : Viewer ι} (scale : Float) :
    Reachable viewer → Reachable (viewer.setScale scale)
  | setImageBase {viewer : Viewer ι} (base : String) :
    Reachable viewer → Reachable (viewer.setImageBase base)
  | registerPalette {viewer : Viewer ι} (scheme : String) (entries : List (String × String)) :
    Reachable viewer → Reachable (viewer.registerPalette scheme entries)
  | takeRequests {viewer : Viewer ι} :
    Reachable viewer → Reachable viewer.takeRequests.2
  | finishImage {viewer : Viewer ι} (fits : Nat → Nat → Bool) (source : String)
    (outcome : Option ι) :
    Reachable viewer → Reachable (viewer.finishImage fits source outcome).viewer

/-- The registry counts right, and only a viewer with a document knows images. -/
structure Sound (viewer : Viewer ι) : Prop where
  counted : viewer.drawing.images.Counted
  documented : viewer.document = none → viewer.drawing.images.entries.keys = []

namespace Sound

private theorem new (options : Options) : (Viewer.new options : Viewer ι).Sound :=
  ⟨Images.counted_empty _, fun _ => rfl⟩

private theorem parse (sound : viewer.Sound) (text : String) :
    (viewer.parse text).viewer.Sound := by
  unfold Viewer.parse
  split
  · exact ⟨sound.counted, nofun⟩
  · exact sound

/-- Drawing again keeps a viewer sound. -/
theorem redraw (sound : viewer.Sound) (fits : Nat → Nat → Bool) (full : Bool) :
    (viewer.redraw fits full).viewer.Sound := by
  refine ⟨?_, fun none => ?_⟩
  · obtain ⟨sources, images⟩ := viewer.exists_images_redraw fits full
    rw [images]
    exact sound.counted.requestAll sources
  · unfold Viewer.redraw at none ⊢
    split
    · rename_i missing
      exact sound.documented missing
    · rename_i document loaded
      simp only [loaded] at none
      cases none

private theorem load (sound : viewer.Sound) (fits : Nat → Nat → Bool) (text : String) :
    (viewer.load fits text).viewer.Sound := by
  unfold Viewer.load
  simp only
  split
  · exact (sound.parse text).redraw fits true
  · exact sound

private theorem finish (sound : viewer.Sound) (source : String) (outcome : Option ι) :
    (viewer.withImages (viewer.drawing.images.finish source outcome).2).Sound :=
  ⟨sound.counted.finish source outcome, fun none =>
    Images.keys_finish.trans (sound.documented none)⟩

private theorem finishImage (sound : viewer.Sound) (fits : Nat → Nat → Bool) (source : String)
    (outcome : Option ι) : (viewer.finishImage fits source outcome).viewer.Sound := by
  unfold Viewer.finishImage
  simp only
  split
  · exact (sound.finish source outcome).redraw fits false
  · exact sound.finish source outcome

end Sound

/-- Every reachable viewer is sound. -/
theorem Reachable.sound (reachable : viewer.Reachable) : viewer.Sound := by
  induction reachable with
  | new options => exact .new options
  | load fits text _ sound => exact sound.load fits text
  | parse text _ sound => exact sound.parse text
  | redraw fits full _ sound => exact sound.redraw fits full
  | setScale scale _ sound => exact ⟨sound.counted, sound.documented⟩
  | setImageBase base _ sound => exact ⟨sound.counted, sound.documented⟩
  | registerPalette scheme entries _ sound => exact ⟨sound.counted, sound.documented⟩
  | takeRequests _ sound => exact ⟨sound.counted, sound.documented⟩
  | finishImage fits source outcome _ sound => exact sound.finishImage fits source outcome

/-- A viewer that knows an image has a document. -/
theorem Sound.exists_document (sound : viewer.Sound) {source : String}
    (known : source ∈ viewer.drawing.images.entries.keys) :
    ∃ document, viewer.document = some document := by
  cases loaded : viewer.document with
  | some document => exact ⟨document, rfl⟩
  | none =>
    rw [sound.documented loaded] at known
    cases known

end Viewer
end XdotViewer
