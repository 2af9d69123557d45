import XdotViewer.Images

/-! # Counting outcomes

The registry keeps a count of the outcomes that it has noted. The count is that of its finished
entries, so an outcome completes the registry exactly if its source was the only one pending.
-/

namespace XdotViewer

private theorem ImageState.isFinished_iff {ι : Type} {state : ImageState ι} :
    state.isFinished = true ↔ state ≠ .pending := by
  cases state <;> simp [ImageState.isFinished]

/-- An outcome finishes an image. -/
theorem ImageState.ofOutcome_ne_pending {ι : Type} (outcome : Option ι) :
    ImageState.ofOutcome outcome ≠ .pending := by
  cases outcome <;> simp [ImageState.ofOutcome]

namespace Images

variable {ι : Type} {images : Images ι} {source : String} {outcome : Option ι}

section Steps

/-- A source that is known is not asked for again. -/
theorem request_of_mem (known : source ∈ images.entries.keys) :
    images.request source = images := by
  rw [request, if_pos ((images.entries.contains_iff source).mpr known)]

/-- A new source is pending and queued. -/
theorem request_of_not_mem (fresh : source ∉ images.entries.keys) :
    images.request source =
      { images with
        entries := images.entries.insert source .pending
        queue := images.queue ++ [⟨source, images.base ++ source⟩] } := by
  rw [request, if_neg (mt (images.entries.contains_iff source).mp fresh)]

private theorem finish_of_pending (pending : images.state? source = some .pending) :
    (images.finish source outcome).2 =
      { images with
        entries := images.entries.insert source (.ofOutcome outcome)
        finishedCount := images.finishedCount + 1 } := by
  simp only [finish, pending]

/-- An outcome for a source that is not pending changes nothing. -/
theorem finish_of_not_pending (settled : images.state? source ≠ some .pending) :
    images.finish source outcome = (false, images) := by
  unfold finish
  split
  · rename_i pending
    exact absurd pending settled
  · rfl

/-- A new source comes last. -/
theorem keys_request : (images.request source).entries.keys =
    if source ∈ images.entries.keys then images.entries.keys
    else images.entries.keys ++ [source] := by
  split
  · rename_i known
    rw [request_of_mem known]
  · rename_i fresh
    rw [request_of_not_mem fresh, OrderedMap.keys_insert, if_neg fresh]

/-- An outcome adds no entry and moves none. -/
theorem keys_finish : (images.finish source outcome).2.entries.keys = images.entries.keys := by
  by_cases pending : images.state? source = some .pending
  · rw [finish_of_pending pending, OrderedMap.keys_insert,
      if_pos (OrderedMap.mem_keys_of_get? pending)]
  · rw [finish_of_not_pending pending]

/-- Outcomes do not touch the queue. -/
theorem queue_finish : (images.finish source outcome).2.queue = images.queue := by
  by_cases pending : images.state? source = some .pending
  · rw [finish_of_pending pending]
  · rw [finish_of_not_pending pending]

/-- Outcomes do not touch the base. -/
theorem base_finish : (images.finish source outcome).2.base = images.base := by
  by_cases pending : images.state? source = some .pending
  · rw [finish_of_pending pending]
  · rw [finish_of_not_pending pending]

/-- Asking for a source leaves every known state as it is. -/
theorem state?_request_of_known {other : String} {state : ImageState ι}
    (known : images.state? other = some state) :
    (images.request source).state? other = some state := by
  by_cases member : source ∈ images.entries.keys
  · rwa [request_of_mem member]
  · have different : ¬ source = other := by
      rintro rfl
      exact member (OrderedMap.mem_keys_of_get? known)
    rw [request_of_not_mem member, state?, OrderedMap.get?_insert, if_neg different]
    exact known

/-- Requests do not change the states of sources that are known. -/
theorem state?_requestAll_of_known {other : String} {state : ImageState ι}
    (known : images.state? other = some state) (sources : List String) :
    (images.requestAll sources).state? other = some state := by
  induction sources generalizing images with
  | nil => exact known
  | cons source rest ih => exact ih (state?_request_of_known known)

/-- The first outcome of a source settles it. -/
theorem state?_finish_self (pending : images.state? source = some .pending) :
    (images.finish source outcome).2.state? source = some (.ofOutcome outcome) := by
  rw [finish_of_pending pending, state?, OrderedMap.get?_insert, if_pos rfl]

/-- Outcomes of other sources do not settle it. -/
theorem state?_finish_of_ne {other : String} (different : other ≠ source) :
    (images.finish source outcome).2.state? other = images.state? other := by
  by_cases pending : images.state? source = some .pending
  · rw [finish_of_pending pending, state?, OrderedMap.get?_insert, if_neg different.symm, state?]
  · rw [finish_of_not_pending pending]

end Steps

/-- The count is that of the finished entries. -/
def Counted (images : Images ι) : Prop :=
  images.finishedCount = images.entries.entries.countP fun entry => entry.2.isFinished

theorem counted_empty (base : String) : (empty base : Images ι).Counted := rfl

namespace Counted

/-- Counting is right after a request. -/
theorem request (counted : images.Counted) (source : String) :
    (images.request source).Counted := by
  by_cases known : source ∈ images.entries.keys
  · rwa [request_of_mem known]
  · rw [request_of_not_mem known]
    change images.finishedCount = List.countP _ (putEntry source .pending images.entries.entries)
    rw [putEntry_of_not_mem known, List.countP_append, ← counted]
    rfl

theorem requestAll (counted : images.Counted) (sources : List String) :
    (images.requestAll sources).Counted := by
  induction sources generalizing images with
  | nil => exact counted
  | cons source rest ih => exact ih (counted.request source)

/-- Counting is right after an outcome. -/
theorem finish (counted : images.Counted) (source : String) (outcome : Option ι) :
    (images.finish source outcome).2.Counted := by
  by_cases pending : images.state? source = some .pending
  · obtain ⟨front, back, whole, put⟩ := exists_place_of_findEntry pending
    rw [finish_of_pending pending]
    change images.finishedCount + 1 =
      List.countP _ (putEntry source (.ofOutcome outcome) images.entries.entries)
    have before : images.finishedCount = _ := counted
    rw [whole, List.countP_append, List.countP_cons_of_neg (by simp [ImageState.isFinished])]
      at before
    have done : (ImageState.ofOutcome outcome).isFinished = true :=
      ImageState.isFinished_iff.mpr (ImageState.ofOutcome_ne_pending outcome)
    rw [put, List.countP_append, List.countP_cons_of_pos (by exact done)]
    omega
  · rwa [finish_of_not_pending pending]

/-- Everything is finished exactly if nothing is pending. -/
theorem allFinished_iff (counted : images.Counted) :
    images.allFinished = true ↔ ∀ source, images.state? source ≠ some .pending := by
  have count : images.finishedCount = _ := counted
  rw [allFinished, beq_iff_eq, count, OrderedMap.size, List.countP_eq_length]
  constructor
  · intro finished source pending
    have member := (images.entries.get?_eq_some_iff source _).mp pending
    exact Bool.false_ne_true (finished _ member)
  · intro settled entry member
    rw [ImageState.isFinished_iff]
    intro pending
    exact settled entry.1 ((images.entries.get?_eq_some_iff _ _).mpr (pending ▸ member))

/-- An outcome is reported as the last one exactly if its source was the only one pending. -/
theorem finish_iff (counted : images.Counted) :
    (images.finish source outcome).1 = true ↔
      images.state? source = some .pending ∧
        ∀ other, images.state? other = some .pending → other = source := by
  by_cases pending : images.state? source = some .pending
  · have last : (images.finish source outcome).1 =
        (images.finish source outcome).2.allFinished := by
      simp only [Images.finish, pending]
    rw [last, (counted.finish source outcome).allFinished_iff]
    constructor
    · intro settled
      refine ⟨pending, fun other still => Decidable.by_contra fun different => ?_⟩
      exact settled other ((state?_finish_of_ne different).trans still)
    · rintro ⟨-, only⟩ other still
      by_cases same : other = source
      · subst same
        rw [state?_finish_self pending] at still
        exact ImageState.ofOutcome_ne_pending outcome (Option.some.inj still)
      · rw [state?_finish_of_ne same] at still
        exact same (only other still)
  · rw [finish_of_not_pending pending]
    constructor
    · intro impossible
      cases impossible
    · rintro ⟨still, -⟩
      exact absurd still pending

end Counted

end Images
end XdotViewer
