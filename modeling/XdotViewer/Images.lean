import XdotViewer.OrderedMap

/-! # Images

Images are loaded by someone else. The registry knows every image source that has been asked for,
asks for each of them once, and notices when the last one is there.
-/

namespace XdotViewer

inductive ImageState (ι : Type) where
  | pending
  | loaded (picture : ι)
  | failed
deriving DecidableEq, Repr

def ImageState.isFinished {ι : Type} : ImageState ι → Bool
  | pending => false
  | _ => true

/-- The outcome of loading: a picture, or a failure. -/
def ImageState.ofOutcome {ι : Type} : Option ι → ImageState ι
  | some picture => loaded picture
  | none => failed

/-- Asks for an image. -/
structure ImageRequest where
  /-- The source as it is written in the drawing. -/
  source : String
  /-- Where to find it: the base and the source. -/
  path : String
deriving DecidableEq, Repr

@[ext]
structure Images (ι : Type) where
  entries : OrderedMap String (ImageState ι)
  /-- Requests that have not been taken yet. -/
  queue : List ImageRequest
  /-- How many sources have an outcome. -/
  finishedCount : Nat
  /-- What stands in front of the sources asked for from now on. -/
  base : String

namespace Images

variable {ι : Type}

def empty (base : String) : Images ι :=
  ⟨∅, [], 0, base⟩

def setBase (images : Images ι) (base : String) : Images ι :=
  { images with base }

def state? (images : Images ι) (source : String) : Option (ImageState ι) :=
  images.entries.get? source

/-- The state of a source; one that nobody has asked for is pending. -/
def state (images : Images ι) (source : String) : ImageState ι :=
  (images.state? source).getD .pending

/-- Registers a source and asks for it, unless it is registered. -/
def request (images : Images ι) (source : String) : Images ι :=
  if images.entries.contains source then images
  else
    { images with
      entries := images.entries.insert source .pending
      queue := images.queue ++ [⟨source, images.base ++ source⟩] }

def requestAll (images : Images ι) (sources : List String) : Images ι :=
  sources.foldl request images

/-- The requests since the last time, and the registry without them. -/
def takeRequests (images : Images ι) : List ImageRequest × Images ι :=
  (images.queue, { images with queue := [] })

def allFinished (images : Images ι) : Bool :=
  images.finishedCount == images.entries.size

/-- Notes the outcome of a pending source. The flag says that it was the last one pending. -/
def finish (images : Images ι) (source : String) (outcome : Option ι) : Bool × Images ι :=
  match images.state? source with
  | some .pending =>
    let images :=
      { images with
        entries := images.entries.insert source (.ofOutcome outcome)
        finishedCount := images.finishedCount + 1 }
    (images.allFinished, images)
  | _ => (false, images)

/-- Asking for an image does not change how far any image is. -/
theorem state_request (images : Images ι) (source other : String) :
    (images.request source).state other = images.state other := by
  unfold request
  split
  · rfl
  · rename_i fresh
    simp only [state, state?, OrderedMap.get?_insert]
    split
    · rename_i same
      subst same
      cases known : images.entries.get? source with
      | none => rfl
      | some value => simp [OrderedMap.contains, known] at fresh
    · rfl

/-- Asking changes no state. -/
theorem state_requestAll (images : Images ι) (sources : List String) (other : String) :
    (images.requestAll sources).state other = images.state other := by
  induction sources generalizing images with
  | nil => rfl
  | cons source rest ih =>
    exact (ih (images.request source)).trans (state_request images source other)

end Images
end XdotViewer
