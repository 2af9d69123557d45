import XdotViewer.Proofs.Images.Counting
import Mathlib.Data.List.Induction

/-! # A registry in use

A session is a run of actions on a registry that was empty at first, with everything that has been
taken out of its queue. At every moment of it the count, the entries and the requests agree with
each other and with what has been asked for, and what is finished stays so.
-/

namespace XdotViewer.Images

variable {ι : Type}

/-- What is done with a registry. -/
inductive Action (ι : Type) where
  | setBase (base : String)
  | request (source : String)
  | takeRequests
  | finish (source : String) (outcome : Option ι)

/-- The sources that actions ask for, as often as they do. -/
def askedSources (actions : List (Action ι)) : List String :=
  actions.filterMap fun
    | .request source => some source
    | _ => none

/-- The base in force after actions, given the one before them. -/
def baseAfter (base : String) (actions : List (Action ι)) : String :=
  (actions.filterMap fun
    | .setBase base => some base
    | _ => none).getLastD base

/-- A registry in use, with the requests that have been taken from it. -/
structure Session (ι : Type) where
  images : Images ι
  taken : List ImageRequest

namespace Session

def new (base : String) : Session ι :=
  ⟨.empty base, []⟩

def step (session : Session ι) : Action ι → Session ι
  | .setBase base => { session with images := session.images.setBase base }
  | .request source => { session with images := session.images.request source }
  | .takeRequests =>
    let (requests, images) := session.images.takeRequests
    ⟨images, session.taken ++ requests⟩
  | .finish source outcome => { session with images := (session.images.finish source outcome).2 }

def run (session : Session ι) (actions : List (Action ι)) : Session ι :=
  actions.foldl step session

/-- All requests so far, whether they have been taken or not. -/
def requests (session : Session ι) : List ImageRequest :=
  session.taken ++ session.images.queue

/-- The entries agree with the count and with the requests. -/
structure Coherent (session : Session ι) : Prop where
  counted : session.images.Counted
  requested : session.requests.map ImageRequest.source = session.images.entries.keys

private theorem run_append (session : Session ι) (first second : List (Action ι)) :
    session.run (first ++ second) = (session.run first).run second :=
  List.foldl_append

private theorem run_concat (session : Session ι) (actions : List (Action ι)) (action : Action ι) :
    session.run (actions ++ [action]) = (session.run actions).step action :=
  run_append session actions [action]

variable {session : Session ι} {source : String}

section Steps

/-- A fresh source adds its request, and nothing else does. -/
theorem requests_request : (session.step (.request source)).requests =
    if source ∈ session.images.entries.keys then session.requests
    else session.requests ++ [⟨source, session.images.base ++ source⟩] := by
  change session.taken ++ (session.images.request source).queue = _
  split
  · rename_i known
    rw [request_of_mem known]
    rfl
  · rename_i fresh
    rw [request_of_not_mem fresh, ← List.append_assoc]
    rfl

private theorem requests_takeRequests : (session.step .takeRequests).requests = session.requests :=
  List.append_nil _

private theorem requests_finish (outcome : Option ι) :
    (session.step (.finish source outcome)).requests = session.requests :=
  congrArg (session.taken ++ ·) queue_finish

private theorem coherent_step (coherent : session.Coherent) (action : Action ι) :
    (session.step action).Coherent := by
  obtain ⟨counted, requested⟩ := coherent
  cases action with
  | setBase base => exact ⟨counted, requested⟩
  | request source =>
    refine ⟨counted.request source, ?_⟩
    change (session.step (.request source)).requests.map ImageRequest.source =
      (session.images.request source).entries.keys
    rw [requests_request, keys_request]
    split
    · exact requested
    · rw [List.map_append, requested]
      rfl
  | takeRequests => exact ⟨counted, (congrArg _ requests_takeRequests).trans requested⟩
  | finish source outcome =>
    refine ⟨counted.finish source outcome, ?_⟩
    rw [requests_finish, requested]
    exact keys_finish.symm

private theorem base_step (action : Action ι) :
    (session.step action).images.base = baseAfter session.images.base [action] := by
  cases action with
  | setBase base => rfl
  | request source =>
    change (session.images.request source).base = session.images.base
    by_cases known : source ∈ session.images.entries.keys
    · rw [request_of_mem known]
    · rw [request_of_not_mem known]
  | takeRequests => rfl
  | finish source outcome => exact base_finish

/-- A source is registered when it is asked for the first time, after all others. -/
theorem keys_step (action : Action ι) :
    (session.step action).images.entries.keys = session.images.entries.keys ++
      (askedSources [action]).filter fun source => source ∉ session.images.entries.keys := by
  cases action with
  | setBase base => exact (List.append_nil _).symm
  | request source =>
    change (session.images.request source).entries.keys = _
    rw [keys_request]
    by_cases known : source ∈ session.images.entries.keys <;> simp [askedSources, known]
  | takeRequests => exact (List.append_nil _).symm
  | finish source outcome => exact keys_finish.trans (List.append_nil _).symm

private theorem requests_prefix_step (action : Action ι) :
    session.requests <+: (session.step action).requests := by
  cases action with
  | setBase base => exact List.prefix_refl _
  | request source =>
    rw [requests_request]
    split
    · exact List.prefix_refl _
    · exact List.prefix_append _ _
  | takeRequests => exact requests_takeRequests ▸ List.prefix_refl _
  | finish source outcome => exact requests_finish outcome ▸ List.prefix_refl _

private theorem state?_step_of_settled {state : ImageState ι}
    (known : session.images.state? source = some state) (settled : state ≠ .pending)
    (action : Action ι) : (session.step action).images.state? source = some state := by
  cases action with
  | setBase base => exact known
  | request other => exact state?_request_of_known known
  | takeRequests => exact known
  | finish other outcome =>
    by_cases same : source = other
    · subst same
      have still : session.images.state? source ≠ some .pending := by
        rw [known]
        exact fun pending => settled (Option.some.inj pending)
      change (session.images.finish source outcome).2.state? source = some state
      rw [finish_of_not_pending still, known]
    · exact (state?_finish_of_ne same).trans known

end Steps

section Runs

private theorem coherent_run (coherent : session.Coherent) (actions : List (Action ι)) :
    (session.run actions).Coherent := by
  induction actions generalizing session with
  | nil => exact coherent
  | cons action rest ih => exact ih (coherent_step coherent action)

private theorem keys_prefix_run (actions : List (Action ι)) :
    session.images.entries.keys <+: (session.run actions).images.entries.keys := by
  induction actions generalizing session with
  | nil => exact List.prefix_refl _
  | cons action rest ih =>
    have first : session.images.entries.keys <+: (session.step action).images.entries.keys := by
      rw [keys_step]
      exact List.prefix_append _ _
    exact first.trans ih

private theorem requests_prefix_run (actions : List (Action ι)) :
    session.requests <+: (session.run actions).requests := by
  induction actions generalizing session with
  | nil => exact List.prefix_refl _
  | cons action rest ih => exact (requests_prefix_step action).trans ih

private theorem state?_run_of_settled {state : ImageState ι}
    (known : session.images.state? source = some state) (settled : state ≠ .pending)
    (actions : List (Action ι)) :
    (session.run actions).images.state? source = some state := by
  induction actions generalizing session with
  | nil => exact known
  | cons action rest ih => exact ih (state?_step_of_settled known settled action)

private theorem base_run (base : String) (actions : List (Action ι)) :
    ((new base).run actions).images.base = baseAfter base actions := by
  induction actions using List.reverseRecOn with
  | nil => rfl
  | append_singleton front action ih =>
    rw [run_concat, base_step, ih]
    cases action with
    | setBase base => simp [baseAfter]
    | request source => simp [baseAfter]
    | takeRequests => simp [baseAfter]
    | finish source outcome => simp [baseAfter]

/-- The registered sources are those asked for, in the order in which they first were. -/
theorem keys_run (base : String) (actions : List (Action ι)) :
    ((new base).run actions).images.entries.keys = (askedSources actions).eraseDups := by
  induction actions using List.reverseRecOn with
  | nil => rfl
  | append_singleton front action ih =>
    have asked : askedSources (front ++ [action]) = askedSources front ++ askedSources [action] :=
      List.filterMap_append
    rw [run_concat, keys_step, ih, asked, List.eraseDups_append]
    cases action with
    | setBase base => rfl
    | request source =>
      have single : askedSources [(.request source : Action ι)] = [source] := rfl
      by_cases known : source ∈ askedSources front
      · simp [single, List.removeAll, known]
      · simp [single, List.removeAll, known, List.eraseDups_cons]
    | takeRequests => rfl
    | finish source outcome => rfl

/-- A request carries the base in force when its source was asked for first. -/
theorem mem_requests_run (base : String) {front back : List (Action ι)}
    (first : source ∉ askedSources front) :
    (⟨source, baseAfter base front ++ source⟩ : ImageRequest) ∈
      ((new base).run (front ++ .request source :: back)).requests := by
  have fresh : source ∉ ((new base).run front).images.entries.keys := by
    rw [keys_run, List.mem_eraseDups]
    exact first
  rw [run_append]
  have later : (((new base).run front).step (.request source)).requests <+:
      (((new base).run front).run (.request source :: back)).requests :=
    requests_prefix_run back
  apply later.subset
  rw [requests_request, if_neg fresh, base_run]
  exact List.mem_concat_self

end Runs

/-- What holds of a registry at every moment of a session that began with an empty one. -/
structure Kept (base : String) (actions : List (Action ι)) (session : Session ι) : Prop where
  /-- The count is that of the entries that are not pending. -/
  counted : session.images.finishedCount =
    session.images.entries.entries.countP fun entry => entry.2.isFinished
  /-- Later actions neither remove nor move an entry. -/
  lasting : ∀ more, session.images.entries.keys <+: (session.run more).images.entries.keys
  /-- The requests, taken or queued, name each registered source once and in order. -/
  requested : session.requests.map ImageRequest.source = session.images.entries.keys
  distinct : session.images.entries.keys.Nodup
  /-- The registered sources are those asked for, in the order in which they first were. -/
  asked : session.images.entries.keys = (askedSources actions).eraseDups
  /-- A request carries the base in force when its source was asked for first. -/
  based : ∀ front source back, actions = front ++ .request source :: back →
    source ∉ askedSources front → ⟨source, baseAfter base front ++ source⟩ ∈ session.requests
  /-- What is loaded or failed stays so. -/
  settled : ∀ source state more, session.images.state? source = some state → state ≠ .pending →
    (session.run more).images.state? source = some state
  /-- A pending source takes the outcome that is noted for it. -/
  noted : ∀ source outcome, session.images.state? source = some .pending →
    (session.images.finish source outcome).2.state? source = some (.ofOutcome outcome)
  /-- An outcome is reported as the last one exactly if its source was the only one pending. -/
  last : ∀ source outcome, (session.images.finish source outcome).1 = true ↔
    session.images.state? source = some .pending ∧
      ∀ other, session.images.state? other = some .pending → other = source

/-- A registry keeps count whatever is done with it: base, requests, takings and outcomes in any
order. Each source is queued once, with the base in force at its first request, settled by its first
outcome, and the last pending one is announced. -/
theorem kept_run (base : String) (actions : List (Action ι)) :
    Kept base actions ((new base).run actions) := by
  have start : (new base : Session ι).Coherent := ⟨counted_empty base, rfl⟩
  obtain ⟨counted, requested⟩ := coherent_run start actions
  exact {
    counted := counted
    lasting := keys_prefix_run
    requested := requested
    distinct := OrderedMap.nodup_keys _
    asked := keys_run base actions
    based := by
      rintro front source back rfl first
      exact mem_requests_run base first
    settled := fun source state more known done => state?_run_of_settled known done more
    noted := fun source outcome pending => state?_finish_self pending
    last := fun source outcome => counted.finish_iff }

end Session
end XdotViewer.Images
