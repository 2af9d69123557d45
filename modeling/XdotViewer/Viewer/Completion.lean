import XdotViewer.Viewer

/-! # Showing a text to the end

A text is loaded into a new viewer, and every image that it asks for is loaded and handed in, so
that nothing is pending at the end.
-/

namespace XdotViewer.Viewer

variable {ι : Type} {m : Type → Type} [Monad m]

/-- What has been painted of a text, and the viewer in the end. A text that is shown endlessly has
no end: then this is what there would be without its endless strokes. -/
structure Shown (ι : Type) where
  ops : List (DrawOp ι)
  viewer : Viewer ι
  endless : Bool

/-- Hands in the outcome of each request, and collects the operations that this makes. -/
def finishAll (fits : Nat → Nat → Bool) (loadImage : ImageRequest → m (Option ι)) :
    Viewer ι → List ImageRequest → m (Except ViewerError (Shown ι))
  | viewer, [] => return .ok ⟨[], viewer, false⟩
  | viewer, request :: rest => do
    let outcome ← loadImage request
    let finished := viewer.finishImage fits request.source outcome
    match finished.value with
    | .error error => return .error error
    | .ok _ =>
      let others ← finishAll fits loadImage finished.viewer rest
      return others.map fun later =>
        ⟨finished.ops ++ later.ops, later.viewer, finished.endless || later.endless⟩

/-- Shows a text in a new viewer. -/
def showText (fits : Nat → Nat → Bool) (loadImage : ImageRequest → m (Option ι))
    (options : Options) (text : String) : m (Except ViewerError (Shown ι)) := do
  let loaded := (new options : Viewer ι).load fits text
  match loaded.value with
  | .error error => return .error error
  | .ok () =>
    let (requests, viewer) := loaded.viewer.takeRequests
    let finished ← finishAll fits loadImage viewer requests
    return finished.map fun later =>
      ⟨loaded.ops ++ later.ops, later.viewer, loaded.endless || later.endless⟩

end XdotViewer.Viewer
