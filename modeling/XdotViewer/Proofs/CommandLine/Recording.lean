import XdotViewer.CommandLine
import XdotViewer.Proofs.Drawing.CanvasSize
import XdotViewer.Proofs.Viewer.Completion

/-! # Recordings

A recording of a text shows it to the end. An image counts as loaded if its file can be read at all.
-/

namespace XdotViewer.CommandLine

open Drawing

variable {m : Type → Type} [Monad m] [LawfulMonad m]

/-- The outcome of an image whose file reads like this. -/
def foundImage (contents : Except FileError ByteArray) : Option Unit :=
  contents.toOption.map fun _ => ()

private theorem findImage_eq (world : World m) (request : ImageRequest) :
    findImage world request = foundImage <$> world.load request.path := by
  rw [findImage, ← bind_pure_comp]
  congr 1
  funext contents
  cases contents <;> rfl

private theorem run_record (world : World m) (options : Options) (text : String) :
    (record world options text).run = Except.mapError RunError.viewer <$>
      Viewer.showText takesAll (findImage world) options text := by
  rw [record, ExceptT.run_bind, ExceptT.run_liftM, bind_map_left, ← bind_pure_comp]
  rfl

/-- A text that a new viewer can load is recorded without an error, whichever of its images can be
read, and shown to the end. -/
theorem record_completes (world : World m) (options : Options) (text : String)
    (loads : ((Viewer.new options : Viewer Unit).load takesAll text).value = .ok ()) :
    ∃ document, Document.read .standard text = .ok document ∧
      let full := (Drawing.new options : Drawing Unit).pass takesAll document .standard true
      let requests := full.drawing.images.queue
      ∃ shown : List (Option Unit) → Viewer.Shown Unit,
        (record world options text).run =
          (fun outcomes => .ok (shown outcomes)) <$> requests.mapM (findImage world) ∧
        (∀ files : String → Except FileError ByteArray,
          (∀ path, world.load path = pure (files path)) →
          (record world options text).run =
            pure (.ok (shown (requests.map fun request => foundImage (files request.path))))) ∧
        ∀ outcomes, outcomes.length = requests.length →
          Viewer.ShownToEnd takesAll document full outcomes (shown outcomes) := by
  obtain ⟨document, read, shown, run, completes⟩ := Viewer.showText_eq (findImage world) loads
  have recorded : (record world options text).run = _ := run_record world options text
  rw [run, Functor.map_map] at recorded
  refine ⟨document, read, shown, recorded, fun files still => ?_, completes⟩
  have found : findImage world = fun request => pure (foundImage (files request.path)) := by
    funext request
    rw [findImage_eq, still, map_pure]
  rw [recorded, found, List.mapM_pure, map_pure]
  rfl

/-- Of the two images of a graph one can be read. -/
theorem record_completes_twoImages :
    let files : String → Except FileError ByteArray := fun path =>
      if path = "pictures/a" then .ok .empty else .error .notFound
    let world : World Id := ⟨.empty, files, fun _ _ => .ok (), fun _ => none⟩
    let options : Options := { imageBase := "pictures/" }
    let text := "digraph \x7b bb=\"0,0,9,9\"; _draw_=\"I 0 0 1 1 1 -a I 0 0 1 1 1 -b\"; \x7d"
    ((Viewer.new options : Viewer Unit).load takesAll text).value = .ok () ∧
      ∃ document shown, (record world options text).run = .ok shown ∧
        Viewer.ShownToEnd takesAll document
          ((Drawing.new options).pass takesAll document .standard true) [some (), none] shown := by
  intro files world options text
  have loads : ((Viewer.new options : Viewer Unit).load takesAll text).value = .ok () := by
    decide +kernel
  let full (document : Document) : Drawing.Outcome Unit :=
    (Drawing.new options).pass takesAll document .standard true
  have queue : (Document.read .standard text).toOption.map (fun document =>
      (full document).drawing.images.queue) =
        some [⟨"a", "pictures/a"⟩, ⟨"b", "pictures/b"⟩] := by
    decide +kernel
  obtain ⟨document, read, shown, -, still, completes⟩ := record_completes world options text loads
  rw [read] at queue
  have requests : (full document).drawing.images.queue = _ := Option.some.inj queue
  have outcomes : ([⟨"a", "pictures/a"⟩, ⟨"b", "pictures/b"⟩] : List ImageRequest).map
      (fun request => foundImage (files request.path)) = [some (), none] := by
    decide
  have run : (record world options text).run = .ok (shown ((full document).drawing.images.queue.map
      fun request => foundImage (files request.path))) := still files fun _ => rfl
  rw [requests, outcomes] at run
  exact ⟨loads, document, _, run, completes _ (congrArg List.length requests).symm⟩

end XdotViewer.CommandLine
