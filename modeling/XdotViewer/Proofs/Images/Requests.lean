import XdotViewer.Proofs.Images.Counting

/-! # Sources that are asked for

Of the sources that are asked for, those that the registry does not know yet are registered and
queued, each of them once. Asking for the same sources again does nothing.
-/

namespace XdotViewer.Images

variable {ι : Type} (images : Images ι)

/-- The sources among those given that are not registered, each of them once. -/
def freshSources (sources : List String) : List String :=
  (sources.filter (· ∉ images.entries.keys)).eraseDups

private theorem requestAll_cons (source : String) (rest : List String) :
    images.requestAll (source :: rest) = (images.request source).requestAll rest := rfl

private theorem freshSources_cons_of_mem {source : String} (known : source ∈ images.entries.keys)
    (rest : List String) : images.freshSources (source :: rest) = images.freshSources rest := by
  rw [freshSources, List.filter_cons_of_neg (by simpa using known), freshSources]

private theorem freshSources_cons_of_not_mem {source : String}
    (fresh : source ∉ images.entries.keys)
    (rest : List String) :
    images.freshSources (source :: rest) =
      source :: (images.request source).freshSources rest := by
  rw [freshSources, List.filter_cons_of_pos (by simpa using fresh), List.eraseDups_cons,
    List.filter_filter, freshSources, keys_request, if_neg fresh]
  congr 3
  funext other
  by_cases same : other = source <;> simp [same]

/-- The registry after its sources have been asked for: every fresh one has an entry and a request,
in the order in which they came up first. -/
theorem requestAll_eq (sources : List String) :
    (images.requestAll sources).entries.keys =
        images.entries.keys ++ images.freshSources sources ∧
      (images.requestAll sources).queue = images.queue ++
        (images.freshSources sources).map fun source => ⟨source, images.base ++ source⟩ := by
  induction sources generalizing images with
  | nil => exact ⟨(List.append_nil _).symm, (List.append_nil _).symm⟩
  | cons source rest ih =>
    rw [requestAll_cons]
    by_cases known : source ∈ images.entries.keys
    · rw [request_of_mem known, freshSources_cons_of_mem images known]
      exact ih images
    · obtain ⟨keys, queue⟩ := ih (images.request source)
      have base : (images.request source).base = images.base := by rw [request_of_not_mem known]
      rw [keys, queue, keys_request, if_neg known, base, freshSources_cons_of_not_mem images known]
      constructor
      · rw [List.append_assoc]
        rfl
      · rw [request_of_not_mem known, List.map_cons, List.append_assoc]
        rfl

/-- What has been asked for is known. -/
theorem mem_keys_requestAll {source : String} {sources : List String} (asked : source ∈ sources) :
    source ∈ (images.requestAll sources).entries.keys := by
  rw [(images.requestAll_eq sources).1, List.mem_append, freshSources, List.mem_eraseDups,
    List.mem_filter]
  by_cases known : source ∈ images.entries.keys
  · exact .inl known
  · exact .inr ⟨asked, by simpa using known⟩

/-- Nothing happens to a registry that knows all sources that it is asked for. -/
theorem requestAll_of_mem {sources : List String}
    (known : ∀ source ∈ sources, source ∈ images.entries.keys) :
    images.requestAll sources = images := by
  induction sources with
  | nil => rfl
  | cons source rest ih =>
    rw [requestAll_cons, request_of_mem (known source List.mem_cons_self)]
    exact ih fun other member => known other (List.mem_cons_of_mem source member)

/-- Asking again for the same sources changes nothing. -/
theorem requestAll_requestAll (sources : List String) :
    (images.requestAll sources).requestAll sources = images.requestAll sources :=
  requestAll_of_mem _ fun _ => images.mem_keys_requestAll

end XdotViewer.Images
