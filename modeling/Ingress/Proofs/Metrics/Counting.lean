import Ingress.Proofs.Metrics.Distribution

/-!
# What a recorder has counted

A recorder that was told of samples, and read in between as often as one likes, has one series for
each method, route and status that came up. Its counter is the number of the samples of that series,
and so is the total of its histogram once it is read; durations that are put aside are not lost.
-/

namespace Ingress.Metrics

open Histogram

variable {bounds : List Float}

namespace Track

/-- The series has been told of the values: all are counted, and each is either in the histogram or
put aside. -/
structure Tells (bounds : List Float) (values : List Float) (t : Track) : Prop where
  count : t.count = values.length
  kept : ∃ taken, (taken ++ t.pending.flatten).Perm values ∧
    t.histogram.buckets = filled bounds taken ∧ t.histogram.count = taken.length

/-- A series that has been told of nothing. -/
def fresh (bounds : List Float) : Track := ⟨0, [], .empty bounds⟩

theorem tells_fresh (bounds : List Float) : (fresh bounds).Tells bounds [] :=
  ⟨rfl, [], .refl _, (filled_nil bounds).symm, rfl⟩

/-- A value that is put aside is one more of those that are. -/
theorem flatten_keep (x : Float) (pending : List (List Float)) :
    (keep x pending).flatten.Perm (x :: pending.flatten) := by
  cases pending with
  | nil => exact .refl _
  | cons block rest =>
    rw [keep]
    by_cases room : block.length < blockSize
    · rw [if_pos room, List.flatten_cons, List.flatten_cons, List.append_assoc]
      exact List.perm_middle
    · rw [if_neg room]
      exact .refl _

theorem Tells.record {values : List Float} {t : Track} (tells : t.Tells bounds values) (x : Float) :
    (t.record x).Tells bounds (values ++ [x]) := by
  obtain ⟨count, taken, all, buckets, total⟩ := tells
  refine ⟨?_, taken, ?_, buckets, total⟩
  · rw [List.length_append, ← count]
    rfl
  · have aside : (taken ++ (keep x t.pending).flatten).Perm (x :: (taken ++ t.pending.flatten)) :=
      ((flatten_keep x _).append_left taken).trans List.perm_middle
    exact (aside.trans (all.cons x)).trans (List.perm_append_singleton x values).symm

/-- Blocks are taken in one after the other, and none is lost. In which order they come does not
matter to what is counted. -/
theorem foldl_record {taken : List Float} {h : Histogram}
    (buckets : h.buckets = filled bounds taken) (total : h.count = taken.length)
    (blocks : List (List Float)) :
    (blocks.foldl (fun h block => h.record bounds block) h).buckets =
        filled bounds (taken ++ blocks.flatten) ∧
      (blocks.foldl (fun h block => h.record bounds block) h).count =
        (taken ++ blocks.flatten).length := by
  induction blocks generalizing taken h with
  | nil => simpa using ⟨buckets, total⟩
  | cons block blocks ih =>
    have next : (h.record bounds block).count = (taken ++ block).length := by
      rw [List.length_append, ← total]
      rfl
    rw [List.foldl_cons, List.flatten_cons, ← List.append_assoc]
    exact ih (buckets_record buckets) next

/-- A series that has been read shows all that it was told of. -/
theorem Tells.drained {values : List Float} {t : Track} (tells : t.Tells bounds values) :
    (t.drain bounds).histogram.buckets = filled bounds values ∧
      (t.drain bounds).histogram.count = values.length := by
  obtain ⟨-, taken, all, buckets, total⟩ := tells
  obtain ⟨buckets', total'⟩ := foldl_record buckets total t.pending
  exact ⟨buckets'.trans (filled_perm all), total'.trans all.length_eq⟩

theorem Tells.drain {values : List Float} {t : Track} (tells : t.Tells bounds values) :
    (t.drain bounds).Tells bounds values := by
  obtain ⟨buckets, total⟩ := tells.drained
  refine ⟨tells.count, values, ?_, buckets, total⟩
  rw [show (t.drain bounds).pending = [] from rfl, List.flatten_nil, List.append_nil]

end Track

/-- The durations of the samples of a series, in milliseconds. -/
def durations (s : Series) (samples : List Sample) : List Float :=
  (samples.filter (·.series = s)).map Sample.millis

theorem durations_eq_nil {s : Series} {samples : List Sample}
    (absent : s ∉ samples.map Sample.series) : durations s samples = [] := by
  rw [durations, List.map_eq_nil_iff, List.filter_eq_nil_iff]
  intro x member same
  exact absent (List.mem_map.2 ⟨x, member, of_decide_eq_true same⟩)

theorem durations_append_self (samples : List Sample) (x : Sample) :
    durations x.series (samples ++ [x]) = durations x.series samples ++ [x.millis] := by
  simp [durations]

theorem durations_append_of_ne {s : Series} {x : Sample} (other : x.series ≠ s)
    (samples : List Sample) : durations s (samples ++ [x]) = durations s samples := by
  simp [durations, other]

namespace Recorder

variable {r : Recorder} {samples : List Sample}

/-- Only the series that is told of something changes, and it is there afterwards. -/
theorem lookup_update (bounds : List Float) (series s : Series) (f : Track → Track)
    (tracks : List (Series × Track)) :
    (update bounds series f tracks).lookup s =
      if s = series then some (f ((tracks.lookup series).getD (.fresh bounds)))
      else tracks.lookup s := by
  induction tracks with
  | nil =>
    by_cases same : s = series
    · simp [update, same, Track.fresh]
    · have other : (s == series) = false := by simpa using same
      simp [update, List.lookup_cons, same, other]
  | cons p tracks ih =>
    obtain ⟨t, track⟩ := p
    unfold update
    by_cases here : t = series
    · subst here
      by_cases same : s = t
      · simp [same]
      · have other : (s == t) = false := by simpa using same
        simp [List.lookup_cons, same, other]
    · rw [if_neg here, List.lookup_cons, List.lookup_cons, ih]
      by_cases same : s = t
      · subst same
        simp [here]
      · have other : (s == t) = false := by simpa using same
        have own : (series == t) = false := by simpa using Ne.symm here
        simp [other, List.lookup_cons, own]

theorem map_fst_update (bounds : List Float) (series : Series) (f : Track → Track)
    (tracks : List (Series × Track)) :
    (update bounds series f tracks).map (·.1) =
      if series ∈ tracks.map (·.1) then tracks.map (·.1) else tracks.map (·.1) ++ [series] := by
  induction tracks with
  | nil => rfl
  | cons p tracks ih =>
    obtain ⟨t, track⟩ := p
    unfold update
    by_cases here : t = series
    · simp [here]
    · simp only [if_neg here, List.map_cons, ih, List.mem_cons, Ne.symm here, false_or]
      split <;> simp

theorem lookup_map (s : Series) (f : Track → Track) (tracks : List (Series × Track)) :
    (tracks.map fun p => (p.1, f p.2)).lookup s = (tracks.lookup s).map f := by
  induction tracks with
  | nil => rfl
  | cons p tracks ih =>
    rw [List.map_cons, List.lookup_cons, List.lookup_cons, ih]
    split <;> simp

theorem lookup_eq_none_iff {s : Series} {tracks : List (Series × Track)} :
    tracks.lookup s = none ↔ s ∉ tracks.map (·.1) := by
  rw [List.lookup_eq_none_iff, List.mem_map]
  constructor
  · rintro other ⟨p, member, rfl⟩
    simpa using other p member
  · intro absent p member
    rw [bne_iff_ne]
    rintro rfl
    exact absent ⟨p, member, rfl⟩

theorem lookup_of_mem {s : Series} {t : Track} {tracks : List (Series × Track)}
    (distinct : (tracks.map (·.1)).Nodup) (member : (s, t) ∈ tracks) :
    tracks.lookup s = some t := by
  induction tracks with
  | nil => cases member
  | cons p tracks ih =>
    obtain ⟨new, rest⟩ := List.nodup_cons.1 distinct
    rcases List.mem_cons.1 member with rfl | later
    · exact List.lookup_cons_self
    · have other : s ≠ p.1 := by
        rintro rfl
        exact new (List.mem_map.2 ⟨_, later, rfl⟩)
      rw [List.lookup_cons, beq_false_of_ne other]
      exact ih rest later

/-- The recorder has been told of the samples: it has a series for each that came up and for no
other. -/
structure Tells (r : Recorder) (samples : List Sample) : Prop where
  distinct : (r.tracks.map (·.1)).Nodup
  known : ∀ s, s ∈ r.tracks.map (·.1) ↔ s ∈ samples.map Sample.series
  each : ∀ s t, r.tracks.lookup s = some t → t.Tells r.bounds (durations s samples)

theorem tells_of_new {service : String} (made : Recorder.new service bounds = .ok r) :
    r.Tells [] ∧ r.bounds = bounds ∧ r.service = service := by
  unfold Recorder.new at made
  split at made
  · cases made
  · cases made
    exact ⟨⟨List.nodup_nil, fun _ => .rfl, nofun⟩, rfl, rfl⟩

theorem Tells.record (tells : r.Tells samples) (x : Sample) :
    (r.record x).Tells (samples ++ [x]) := by
  obtain ⟨distinct, known, each⟩ := tells
  refine ⟨?_, ?_, ?_⟩
  · rw [Recorder.record, map_fst_update]
    split
    · exact distinct
    · rename_i new
      refine List.nodup_append.2 ⟨distinct, List.nodup_cons.2 ⟨nofun, List.nodup_nil⟩, ?_⟩
      intro s member t single same
      exact new (List.mem_singleton.1 single ▸ same ▸ member)
  · intro s
    rw [Recorder.record, map_fst_update, List.map_append, List.mem_append, ← known]
    split
    · rename_i old
      constructor
      · exact .inl
      · rintro (member | single)
        · exact member
        · rw [List.mem_singleton.1 single]
          exact old
    · exact List.mem_append
  · -- Only the series of the sample is told of it; a new series has been told of nothing before.
    intro s t found
    rw [Recorder.record, lookup_update] at found
    by_cases same : s = x.series
    · subst same
      rw [if_pos rfl] at found
      rw [durations_append_self, ← Option.some.inj found]
      cases before : r.tracks.lookup x.series with
      | some t₀ => exact (each _ t₀ before).record x.millis
      | none =>
        have absent : x.series ∉ samples.map Sample.series := by
          rw [← known]
          exact lookup_eq_none_iff.1 before
        rw [durations_eq_nil absent]
        exact (Track.tells_fresh r.bounds).record x.millis
    · rw [if_neg same] at found
      rw [durations_append_of_ne (Ne.symm same)]
      exact each s t found

theorem Tells.drain (tells : r.Tells samples) : r.drain.Tells samples := by
  obtain ⟨distinct, known, each⟩ := tells
  have series : r.drain.tracks.map (·.1) = r.tracks.map (·.1) := by simp [Recorder.drain]
  refine ⟨series ▸ distinct, series ▸ known, ?_⟩
  intro s t found
  rw [Recorder.drain, lookup_map] at found
  obtain ⟨t₀, before, rfl⟩ := Option.map_eq_some_iff.1 found
  exact (each s t₀ before).drain

/-- What is done with a recorder: it is told of a sample, or it is read. -/
inductive Use
  | sample (x : Sample)
  | read

/-- The recorder after something was done with it. -/
def use (r : Recorder) : Use → Recorder
  | .sample x => r.record x
  | .read => r.drain

/-- The recorder after all that was done with it. -/
def after (r : Recorder) (uses : List Use) : Recorder := uses.foldl use r

/-- The samples that a recorder was told of. -/
def recorded (uses : List Use) : List Sample :=
  uses.filterMap fun
    | .sample x => some x
    | .read => none

theorem recorded_append (uses more : List Use) :
    recorded (uses ++ more) = recorded uses ++ recorded more :=
  List.filterMap_append

theorem recorded_samples (samples : List Sample) :
    recorded (samples.map .sample) = samples := by
  simp [recorded, List.filterMap_map]

/-- Whatever is done with a recorder, it has been told of what it was told of. -/
theorem Tells.after (tells : r.Tells samples) (uses : List Use) :
    (r.after uses).Tells (samples ++ recorded uses) ∧ (r.after uses).bounds = r.bounds ∧
      (r.after uses).service = r.service := by
  induction uses generalizing r samples with
  | nil => simpa [recorded, Recorder.after] using tells
  | cons u uses ih =>
    cases u with
    | sample x =>
      have next := ih (tells.record x)
      rw [List.append_assoc] at next
      exact next
    | read => exact ih tells.drain

end Recorder

end Ingress.Metrics
