import XdotViewer.Proofs.Images.Counting
import Mathlib.Data.List.Induction

/-! # Runs of outcomes

Outcomes come in any order, and some sources get more than one. Only the first outcome of a pending
source counts, so the registry in the end does not depend on the order.
-/

namespace XdotViewer.Images

variable {ι : Type} {images : Images ι}

/-- Notes outcomes one after the other. -/
def finishAll (images : Images ι) (calls : List (String × Option ι)) : Images ι :=
  calls.foldl (fun images call => (images.finish call.1 call.2).2) images

/-- Outcomes for registered sources only, and for each pending one at least once. -/
structure Completes (images : Images ι) (calls : List (String × Option ι)) : Prop where
  registered : ∀ call ∈ calls, call.1 ∈ images.entries.keys
  covered : ∀ source, images.state? source = some .pending → source ∈ calls.map Prod.fst

/-- The call with which, after those in front of it, every pending source has an outcome. -/
structure Completing (images : Images ι) (front : List (String × Option ι))
    (call : String × Option ι) : Prop where
  pending : images.state? call.1 = some .pending
  first : call.1 ∉ front.map Prod.fst
  covered : ∀ source, images.state? source = some .pending →
    source ∈ (front ++ [call]).map Prod.fst

private theorem finishAll_cons (call : String × Option ι) (rest : List (String × Option ι)) :
    images.finishAll (call :: rest) = (images.finish call.1 call.2).2.finishAll rest := rfl

/-- Outcomes in two parts are noted one after the other. -/
theorem finishAll_append (first second : List (String × Option ι)) :
    images.finishAll (first ++ second) = (images.finishAll first).finishAll second :=
  List.foldl_append

section Frame

variable (calls : List (String × Option ι))

/-- Outcomes add no sources. -/
theorem keys_finishAll : (images.finishAll calls).entries.keys = images.entries.keys := by
  induction calls generalizing images with
  | nil => rfl
  | cons call rest ih => exact ih.trans keys_finish

/-- Outcomes do not touch the queue. -/
theorem queue_finishAll : (images.finishAll calls).queue = images.queue := by
  induction calls generalizing images with
  | nil => rfl
  | cons call rest ih => exact ih.trans queue_finish

private theorem base_finishAll : (images.finishAll calls).base = images.base := by
  induction calls generalizing images with
  | nil => rfl
  | cons call rest ih => exact ih.trans base_finish

private theorem Counted.finishAll (counted : images.Counted) :
    (images.finishAll calls).Counted := by
  induction calls generalizing images with
  | nil => exact counted
  | cons call rest ih => exact ih (counted.finish call.1 call.2)

end Frame

section States

variable {calls : List (String × Option ι)} {source : String}

private theorem state?_finishAll_of_not_pending (settled : images.state? source ≠ some .pending) :
    (images.finishAll calls).state? source = images.state? source := by
  induction calls generalizing images with
  | nil => rfl
  | cons call rest ih =>
    have first : (images.finish call.1 call.2).2.state? source = images.state? source := by
      by_cases same : source = call.1
      · rw [finish_of_not_pending (same ▸ settled)]
      · exact state?_finish_of_ne same
    rw [finishAll_cons, ih (first ▸ settled), first]

/-- A pending source takes its first outcome, and waits where there is none. -/
theorem state?_finishAll_of_pending (pending : images.state? source = some .pending) :
    (images.finishAll calls).state? source =
      some (((calls.lookup source).map .ofOutcome).getD .pending) := by
  induction calls generalizing images with
  | nil => exact pending
  | cons call rest ih =>
    obtain ⟨name, outcome⟩ := call
    rw [finishAll_cons, List.lookup_cons]
    by_cases same : source = name
    · subst same
      have done : (images.finish source outcome).2.state? source = some (.ofOutcome outcome) :=
        state?_finish_self pending
      have settled : (images.finish source outcome).2.state? source ≠ some .pending := by
        rw [done]
        exact fun still => ImageState.ofOutcome_ne_pending outcome (Option.some.inj still)
      rw [state?_finishAll_of_not_pending settled, done]
      simp
    · rw [ih ((state?_finish_of_ne same).trans pending), beq_false_of_ne same]

/-- Outcomes of settled sources change nothing. -/
theorem finishAll_of_settled
    (settled : ∀ call ∈ calls, images.state? call.1 ≠ some .pending) :
    images.finishAll calls = images := by
  induction calls with
  | nil => rfl
  | cons call rest ih =>
    rw [finishAll_cons, finish_of_not_pending (settled call List.mem_cons_self)]
    exact ih fun other member => settled other (List.mem_cons_of_mem _ member)

/-- Where every pending source has an outcome, none is pending in the end. -/
theorem state?_finishAll_ne_pending (outcome : images.state? source = some .pending →
    source ∈ calls.map Prod.fst) :
    (images.finishAll calls).state? source ≠ some .pending := by
  by_cases pending : images.state? source = some .pending
  · rw [state?_finishAll_of_pending pending]
    obtain ⟨call, member, rfl⟩ := List.mem_map.mp (outcome pending)
    cases found : calls.lookup call.1 with
    | none =>
      rw [List.lookup_eq_none_iff] at found
      exact absurd (found call member) (by simp)
    | some first =>
      exact fun still => ImageState.ofOutcome_ne_pending first (Option.some.inj still)
  · rwa [state?_finishAll_of_not_pending pending]

/-- The first outcomes of the pending sources decide the registry in the end. -/
theorem finishAll_eq_of_lookup (counted : images.Counted) {others : List (String × Option ι)}
    (same : ∀ source, images.state? source = some .pending →
      others.lookup source = calls.lookup source) :
    images.finishAll others = images.finishAll calls := by
  have states (source : String) :
      (images.finishAll others).state? source = (images.finishAll calls).state? source := by
    by_cases pending : images.state? source = some .pending
    · rw [state?_finishAll_of_pending pending, state?_finishAll_of_pending pending,
        same source pending]
    · rw [state?_finishAll_of_not_pending pending, state?_finishAll_of_not_pending pending]
  have entries : (images.finishAll others).entries = (images.finishAll calls).entries :=
    OrderedMap.ext_of_get? ((keys_finishAll others).trans (keys_finishAll calls).symm) states
  have count :
      (images.finishAll others).finishedCount = (images.finishAll calls).finishedCount := by
    rw [counted.finishAll others, counted.finishAll calls, entries]
  have queue : (images.finishAll others).queue = (images.finishAll calls).queue :=
    (queue_finishAll others).trans (queue_finishAll calls).symm
  have base : (images.finishAll others).base = (images.finishAll calls).base :=
    (base_finishAll others).trans (base_finishAll calls).symm
  exact Images.ext entries queue count base

end States

/-- Some call is the first with which every pending source has an outcome. -/
theorem exists_completing {source : String} (pending : images.state? source = some .pending)
    {calls : List (String × Option ι)}
    (covered : ∀ source, images.state? source = some .pending → source ∈ calls.map Prod.fst) :
    ∃ front call back, calls = front ++ call :: back ∧ images.Completing front call := by
  induction calls using List.reverseRecOn with
  | nil => cases covered source pending
  | append_singleton init last ih =>
    by_cases early : ∀ source, images.state? source = some .pending → source ∈ init.map Prod.fst
    · obtain ⟨front, call, back, whole, completing⟩ := ih early
      exact ⟨front, call, back ++ [last], by simp [whole], completing⟩
    · -- Some pending source is named by the last call only, so that call completes them.
      obtain ⟨late, waits⟩ := Classical.not_forall.mp early
      obtain ⟨still, absent⟩ := Classical.not_imp.mp waits
      have here : late = last.1 := by
        have member := covered late still
        rw [List.map_append, List.mem_append] at member
        exact List.mem_singleton.mp (member.resolve_left absent)
      exact ⟨init, last, [], rfl, here ▸ still, here ▸ absent, covered⟩

/-- The completing call is the one whose outcome is reported as the last. -/
theorem Completing.last {front : List (String × Option ι)} {call : String × Option ι}
    (completing : images.Completing front call) (counted : images.Counted) :
    ((images.finishAll front).finish call.1 call.2).1 = true := by
  rw [(counted.finishAll front).finish_iff]
  constructor
  · have none : front.lookup call.1 = none := by
      rw [List.lookup_eq_none_iff]
      intro other member
      rw [bne_iff_ne, ne_eq]
      rintro same
      exact completing.first (List.mem_map.mpr ⟨other, member, same.symm⟩)
    rw [state?_finishAll_of_pending completing.pending, none]
    rfl
  · intro other still
    have pending : images.state? other = some .pending := Classical.byContradiction fun settled =>
      settled ((state?_finishAll_of_not_pending settled).symm.trans still)
    have member := completing.covered other pending
    rw [List.map_append, List.mem_append] at member
    rcases member with early | late
    · exact absurd still (state?_finishAll_ne_pending fun _ => early)
    · exact List.mem_singleton.mp late

end XdotViewer.Images
