import XdotViewer.Proofs.Images.Outcomes
import XdotViewer.Proofs.Images.Requests

/-! # Requests and their answers

What an empty registry is asked for is queued and pending. When all requests are taken and the
outcome of each of them is handed in, nothing is pending any more, and every source is in the state
that the outcome of its request gives it.
-/

namespace XdotViewer.Images

variable {ι : Type} {images : Images ι} {base : String}

/-- Requests with their outcomes, as they are handed in. -/
def calls (answers : List (ImageRequest × Option ι)) : List (String × Option ι) :=
  answers.map fun answer => (answer.1.source, answer.2)

/-- Nothing has been taken from the registry and nothing handed in: each source is queued once, with
the base in front, and is pending. -/
structure Unanswered (images : Images ι) (base : String) : Prop where
  queue : images.queue = images.entries.keys.map fun source => ⟨source, base ++ source⟩
  pending : ∀ source ∈ images.entries.keys, images.state? source = some .pending

/-- Sources that are asked for of an empty registry wait for their answers. -/
theorem unanswered_requestAll (base : String) (sources : List String) :
    ((empty base : Images ι).requestAll sources).Unanswered base where
  queue := by
    obtain ⟨keys, queue⟩ := (empty base : Images ι).requestAll_eq sources
    rw [keys, queue]
    rfl
  pending := by
    intro source asked
    obtain ⟨state, known⟩ := OrderedMap.exists_get?_of_mem_keys asked
    have same := (empty base : Images ι).state_requestAll sources source
    rw [Images.state, state?, known] at same
    rw [state?, known]
    exact congrArg some same

/-- The registry after its requests have been taken and their outcomes handed in. -/
def answered (images : Images ι) (outcomes : List (Option ι)) : Images ι :=
  images.takeRequests.2.finishAll (calls (images.queue.zip outcomes))

namespace Unanswered

variable {outcomes : List (Option ι)} (unanswered : images.Unanswered base)
  (length : outcomes.length = images.queue.length)
include unanswered length

/-- There is one outcome for every source. -/
theorem map_calls :
    (calls (images.queue.zip outcomes)).map Prod.fst = images.entries.keys := by
  have requests : (images.queue.zip outcomes).map Prod.fst = images.queue :=
    List.map_fst_zip (Nat.le_of_eq length.symm)
  have sources : images.queue.map ImageRequest.source = images.entries.keys := by
    rw [unanswered.queue, List.map_map]
    exact List.map_id _
  rw [← sources, ← requests, calls, List.map_map, List.map_map, requests]
  rfl

/-- The outcomes of all requests complete the registry. -/
theorem completes :
    images.takeRequests.2.Completes (calls (images.queue.zip outcomes)) where
  registered call member := by
    have named := List.mem_map_of_mem (f := Prod.fst) member
    rwa [unanswered.map_calls length] at named
  covered source pending := by
    rw [unanswered.map_calls length]
    exact OrderedMap.mem_keys_of_get? pending

/-- With them nothing is pending. -/
theorem settled (source : String) :
    (images.answered outcomes).state? source ≠ some .pending :=
  state?_finishAll_ne_pending ((unanswered.completes length).covered source)

/-- Every source is finished with the outcome of its request. -/
theorem exists_outcome {source : String} (asked : source ∈ images.entries.keys) :
    ∃ outcome, (⟨source, base ++ source⟩, outcome) ∈ images.queue.zip outcomes ∧
      (images.answered outcomes).state source = .ofOutcome outcome := by
  have pending : images.takeRequests.2.state? source = some .pending :=
    unanswered.pending source asked
  have taken : (images.answered outcomes).state? source = _ := state?_finishAll_of_pending pending
  cases found : (calls (images.queue.zip outcomes)).lookup source with
  | none =>
    rw [found] at taken
    exact absurd taken (unanswered.settled length source)
  | some outcome =>
    obtain ⟨front, back, whole, -⟩ := List.lookup_eq_some_iff.mp found
    have called : (source, outcome) ∈ calls (images.queue.zip outcomes) :=
      whole ▸ List.mem_append_right front List.mem_cons_self
    obtain ⟨⟨request, answer⟩, answered, same⟩ := List.mem_map.mp called
    obtain ⟨rfl, rfl⟩ := Prod.mk.inj same
    have queued := (List.of_mem_zip answered).1
    rw [unanswered.queue] at queued
    obtain ⟨source, -, rfl⟩ := List.mem_map.mp queued
    refine ⟨answer, answered, ?_⟩
    rw [Images.state, taken, found]
    rfl

end Unanswered

end XdotViewer.Images
