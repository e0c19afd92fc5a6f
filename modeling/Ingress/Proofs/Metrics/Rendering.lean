import Ingress.Metrics.Exposition
import Ingress.Proofs.Json.Scanning
import Ingress.Proofs.Metrics.Counting

/-!
# What a scraper reads

A recorder that is read shows each series that came up once, with a counter and a histogram whose
numbers are numbers of samples. Label values without a backslash, a double quote or a line break
stand in the text as they are, so two series never show the same labels.
-/

namespace Ingress.Metrics

open Histogram

variable {bounds : List Float} {service : String}

/-- The text is quoted as it is. -/
def Plain (text : String) : Prop := ∀ c ∈ text.toList, c ≠ '\\' ∧ c ≠ '"' ∧ c ≠ '\n'

instance (text : String) : Decidable (Plain text) :=
  decidable_of_iff (text.toList.all fun c => decide (c ≠ '\\' ∧ c ≠ '"' ∧ c ≠ '\n')) <| by
    simp only [List.all_eq_true, decide_eq_true_eq, Plain]

theorem escapeLabel_eq_self {cs : List Char}
    (plain : ∀ c ∈ cs, c ≠ '\\' ∧ c ≠ '"' ∧ c ≠ '\n') : escapeLabel false cs = cs := by
  induction cs with
  | nil => rfl
  | cons c cs ih =>
    obtain ⟨⟨backslash, quote, break_⟩, rest⟩ := List.forall_mem_cons.1 plain
    unfold escapeLabel
    split <;> simp_all

theorem plain_of_isDigit {text : String} (digits : ∀ c ∈ text.toList, c.isDigit) : Plain text := by
  intro c member
  have digit := digits c member
  refine ⟨?_, ?_, ?_⟩ <;> rintro rfl <;> simp at digit

theorem plain_toString (n : Nat) : Plain (toString n) := by
  refine plain_of_isDigit fun c member => ?_
  rw [Nat.toString_eq_repr, Nat.toList_repr] at member
  exact Nat.isDigit_of_mem_toDigits (by decide) (by decide) member

theorem plain_statusClass (status : Nat) : Plain (statusClass status) := by
  have letters : Plain "xx" := by decide
  intro c member
  rw [statusClass, String.toList_append, List.mem_append] at member
  rcases member with digit | letter
  · exact plain_toString _ c digit
  · exact letters c letter

/-- A label with its value as it is. -/
def quoted (name value : String) : String := name ++ "=\"" ++ value ++ "\""

theorem label_eq_quoted {value : String} (plain : Plain value) (name : String) :
    label name value = quoted name value := by
  rw [label, escapeLabel_eq_self plain, String.ofList_toList, quoted]

/-- Two texts that go on up to the first quote are the same up to there. -/
theorem eq_of_append_quote {a b x y : List Char} (inside : '"' ∉ a) (inside' : '"' ∉ b)
    (same : a ++ '"' :: x = b ++ '"' :: y) : a = b ∧ x = y := by
  induction a generalizing b with
  | nil =>
    cases b with
    | nil => simpa using same
    | cons c b =>
      have first : '"' = c := (List.cons.inj same).1
      exact absurd (first ▸ List.mem_cons_self) inside'
  | cons c a ih =>
    cases b with
    | nil =>
      have first : c = '"' := (List.cons.inj same).1
      exact absurd (first ▸ List.mem_cons_self) inside
    | cons d b =>
      obtain ⟨rfl, rest⟩ := List.cons.inj same
      obtain ⟨rfl, ends⟩ := ih (List.not_mem_of_not_mem_cons inside)
        (List.not_mem_of_not_mem_cons inside') rest
      exact ⟨rfl, ends⟩

theorem toString_injective {m n : Nat} (same : toString m = toString n) : m = n := by
  have digits : Nat.toDigits 10 m = Nat.toDigits 10 n := by
    rw [← Nat.toList_repr, ← Nat.toList_repr, ← Nat.toString_eq_repr, ← Nat.toString_eq_repr, same]
  rw [← Json.numeral_toDigits m, digits, Json.numeral_toDigits]

/-- A value that is quoted ends where its quotes do. -/
theorem eq_of_quoted {front name a b x y : String} (plain : Plain a)
    (plain' : Plain b)
    (same : front ++ (quoted name a ++ x) = front ++ (quoted name b ++ y)) : a = b ∧ x = y := by
  have unquoted {text : String} (plain : Plain text) : '"' ∉ text.toList :=
    fun member => (plain _ member).2.1 rfl
  have texts : a.toList ++ '"' :: x.toList = b.toList ++ '"' :: y.toList := by
    simpa [quoted] using congrArg String.toList same
  obtain ⟨value, rest⟩ := eq_of_append_quote (unquoted plain) (unquoted plain') texts
  exact ⟨String.toList_inj.1 value, String.toList_inj.1 rest⟩

theorem label_infinite : label "le" "+Inf" = quoted "le" "+Inf" :=
  label_eq_quoted (by decide) "le"

namespace Series

/-- The values that callers give to the labels of the series are quoted as they are. -/
def Plain (s : Series) : Prop := Metrics.Plain s.method ∧ Metrics.Plain s.route

instance (s : Series) : Decidable s.Plain := inferInstanceAs (Decidable (_ ∧ _))

/-- The labels of a series, each with its value as it is. -/
def verbatim (service : String) (s : Series) : List String :=
  (if service = "" then [] else [quoted "service" service])
    ++ [quoted "http_method" s.method, quoted "http_route" s.route,
      quoted "http_status_code" (toString s.status),
      quoted "http_status_class" (statusClass s.status)]

theorem labels_eq_verbatim (named : Metrics.Plain service) {s : Series} (plain : s.Plain) :
    s.labels service = s.verbatim service := by
  rw [labels, verbatim, label_eq_quoted named, label_eq_quoted plain.1, label_eq_quoted plain.2,
    label_eq_quoted (plain_toString _), label_eq_quoted (plain_statusClass _)]

/-- What stands in front of the labels of the series itself. -/
def heading (service : String) : String :=
  if service = "" then "" else quoted "service" service ++ ","

theorem joined_verbatim (service : String) (s : Series) :
    Text.joined "," (s.verbatim service) =
      heading service ++ (quoted "http_method" s.method ++ ("," ++ (quoted "http_route" s.route ++
        ("," ++ (quoted "http_status_code" (toString s.status) ++
          ("," ++ quoted "http_status_class" (statusClass s.status))))))) := by
  rw [← String.toList_inj]
  by_cases unnamed : service = ""
  · simp [Text.joined, verbatim, heading, unnamed]
  · simp [Text.joined, verbatim, heading, unnamed]

/-- Different series have different labels. -/
theorem eq_of_joined_verbatim {s t : Series} (plain : s.Plain) (plain' : t.Plain)
    (same : Text.joined "," (s.verbatim service) = Text.joined "," (t.verbatim service)) :
    s = t := by
  -- The labels come off from the front, each up to its closing quote.
  rw [joined_verbatim, joined_verbatim] at same
  obtain ⟨method, same⟩ := eq_of_quoted plain.1 plain'.1 same
  obtain ⟨route, same⟩ := eq_of_quoted plain.2 plain'.2 same
  obtain ⟨status, -⟩ := eq_of_quoted (plain_toString _) (plain_toString _) same
  cases s
  cases t
  rw [Series.mk.injEq]
  exact ⟨method, route, toString_injective status⟩

end Series

/-- How many samples are of a series. -/
def number (s : Series) (samples : List Sample) : Nat := samples.countP (·.series = s)

/-- How many samples of a series are at most one of the bounds up to each. -/
def held (bounds : List Float) (s : Series) (samples : List Sample) : List Nat :=
  (List.range bounds.length).map fun i =>
    samples.countP fun x => x.series = s ∧ Reaches bounds (i + 1) x.millis

theorem length_durations (s : Series) (samples : List Sample) :
    (durations s samples).length = number s samples := by
  rw [durations, List.length_map, number, List.countP_eq_length_filter]

theorem filled_durations (bounds : List Float) (s : Series) (samples : List Sample) :
    filled bounds (durations s samples) = held bounds s samples := by
  refine List.map_congr_left fun i _ => ?_
  rw [durations, List.countP_map, List.countP_filter]
  refine List.countP_congr fun x _ => ?_
  simp [and_comm]

/-- Where each bound is at most the next, a bucket holds the samples that are at most its bound. -/
theorem held_of_ascending (ascending : bounds.IsChain (· ≤ ·)) (s : Series)
    (samples : List Sample) :
    held bounds s samples =
      bounds.map fun b => samples.countP fun x => x.series = s ∧ x.millis ≤ b := by
  rw [← filled_durations, filled_of_ascending ascending]
  refine List.map_congr_left fun b _ => ?_
  rw [durations, List.countP_map, List.countP_filter]
  refine List.countP_congr fun x _ => ?_
  simp [and_comm]

/-- The numbers that a series shows. -/
structure Figures where
  counter : Nat
  buckets : List Nat
  total : Nat
deriving DecidableEq

/-- The figures of a series that was told of the samples. -/
def figures (bounds : List Float) (s : Series) (samples : List Sample) : Figures :=
  ⟨number s samples, held bounds s samples, number s samples⟩

theorem figures_perm {samples more : List Sample} (same : samples.Perm more) (s : Series) :
    figures bounds s samples = figures bounds s more := by
  have numbers : number s samples = number s more := same.countP_eq _
  have buckets : held bounds s samples = held bounds s more :=
    List.map_congr_left fun _ _ => same.countP_eq _
  rw [figures, figures, numbers, buckets]

/-- None of the figures is above its counterpart. -/
structure Figures.AtMost (a b : Figures) : Prop where
  counter : a.counter ≤ b.counter
  buckets : List.Forall₂ (· ≤ ·) a.buckets b.buckets
  total : a.total ≤ b.total

theorem figures_atMost_append (bounds : List Float) (s : Series) (samples more : List Sample) :
    (figures bounds s samples).AtMost (figures bounds s (samples ++ more)) := by
  have grows : number s samples ≤ number s (samples ++ more) := by
    simp [number]
  refine ⟨grows, ?_, grows⟩
  rw [figures, held, figures, held, List.forall₂_map_left_iff, List.forall₂_map_right_iff,
    List.forall₂_same]
  intro i _
  simp

/-- The line of the counter of a series. -/
def counterText (service : String) (samples : List Sample) (s : Series) : String :=
  line countName (s.verbatim service) (toString (number s samples))

/-- The lines of the histogram of a series, whatever its sum. -/
def durationText (service : String) (bounds : List Float) (samples : List Sample) (sum : String)
    (s : Series) : List String :=
  (List.zipWith (fun b n => line (durationName ++ "_bucket")
      (s.verbatim service ++ [label "le" (Decimal.Layout.plain.write b)]) (toString n))
      bounds (held bounds s samples))
    ++ [line (durationName ++ "_bucket") (s.verbatim service ++ [quoted "le" "+Inf"])
        (toString (number s samples)),
      line (durationName ++ "_sum") (s.verbatim service) sum,
      line (durationName ++ "_count") (s.verbatim service) (toString (number s samples))]

/-- The text of the series, family by family. -/
def exposition (service : String) (bounds : List Float) (samples : List Sample)
    (sums : Series → String) (all : List Series) : List (List String) :=
  if all = [] then []
  else
    [("# HELP " ++ countName ++ " Total number of HTTP requests processed")
      :: ("# TYPE " ++ countName ++ " counter") :: all.map (counterText service samples),
    ("# HELP " ++ durationName ++ " HTTP request duration in milliseconds")
      :: ("# TYPE " ++ durationName ++ " histogram")
      :: all.flatMap fun s => durationText service bounds samples (sums s) s]

namespace Recorder

variable {r : Recorder} {samples : List Sample}

/-- The numbers that the recorder shows for a series. -/
def shown (r : Recorder) (s : Series) : Option Figures :=
  (r.tracks.lookup s).map fun t => ⟨t.count, t.histogram.buckets, t.histogram.count⟩

theorem shown_eq_none_iff {s : Series} : r.shown s = none ↔ s ∉ r.tracks.map (·.1) := by
  rw [shown, Option.map_eq_none_iff, lookup_eq_none_iff]

/-- What a series shows when it is read are the figures of the samples. -/
theorem Tells.track (tells : r.Tells samples) {s : Series} {t : Track}
    (found : r.drain.tracks.lookup s = some t) :
    t.count = number s samples ∧ t.histogram.buckets = held r.bounds s samples ∧
      t.histogram.count = number s samples := by
  rw [Recorder.drain, lookup_map] at found
  obtain ⟨before, known, rfl⟩ := Option.map_eq_some_iff.1 found
  have told := tells.each s before known
  obtain ⟨buckets, total⟩ := told.drained
  refine ⟨?_, ?_, ?_⟩
  · rw [← length_durations]
    exact told.count
  · rw [buckets, filled_durations]
  · rw [total, length_durations]

theorem Tells.shown (tells : r.Tells samples) (s : Series) :
    r.drain.shown s =
      if s ∈ samples.map Sample.series then some (figures r.bounds s samples) else none := by
  by_cases came : s ∈ samples.map Sample.series
  · rw [if_pos came]
    cases found : r.drain.tracks.lookup s with
    | none => exact absurd ((tells.drain.known s).2 came) (lookup_eq_none_iff.1 found)
    | some t =>
      obtain ⟨count, buckets, total⟩ := tells.track found
      rw [Recorder.shown, found, Option.map_some, count, buckets, total, figures]
  · rw [if_neg came, shown_eq_none_iff, tells.drain.known]
    exact came

theorem sorted_perm (r : Recorder) : r.sorted.Perm r.tracks := List.mergeSort_perm ..

/-- The series in the order of their labels are those that came up, each once. -/
theorem Tells.mem_sorted (tells : r.Tells samples) (s : Series) :
    s ∈ r.sorted.map (·.1) ↔ s ∈ samples.map Sample.series := by
  rw [(r.sorted_perm.map _).mem_iff, tells.known]

theorem Tells.nodup_sorted (tells : r.Tells samples) : (r.sorted.map (·.1)).Nodup :=
  (r.sorted_perm.map _).nodup_iff.2 tells.distinct

theorem Tells.lookup_sorted (tells : r.Tells samples) {p : Series × Track}
    (member : p ∈ r.sorted) : r.tracks.lookup p.1 = some p.2 :=
  lookup_of_mem tells.distinct (r.sorted_perm.mem_iff.1 member)

/-- The sum of a series as it is shown. -/
def sumText (r : Recorder) (s : Series) : String :=
  Decimal.Layout.plain.write (((r.tracks.lookup s).map (·.histogram.sum)).getD 0.0)

section

variable (named : Plain r.service) (plain : ∀ s ∈ samples.map Sample.series, s.Plain)
include named plain

theorem Tells.labels_sorted (tells : r.Tells samples) {p : Series × Track}
    (member : p ∈ r.sorted) : p.1.labels r.service = p.1.verbatim r.service := by
  have came : p.1 ∈ samples.map Sample.series :=
    (tells.mem_sorted p.1).1 (List.mem_map_of_mem member)
  exact Series.labels_eq_verbatim named (plain p.1 came)

theorem Tells.counterLines (tells : r.Tells samples) :
    r.drain.counterLines = (r.drain.sorted.map (·.1)).map (counterText r.service samples) := by
  rw [Recorder.counterLines, List.map_map]
  refine List.map_congr_left fun p member => ?_
  have count := (tells.track (tells.drain.lookup_sorted member)).1
  have labels := Tells.labels_sorted (r := r.drain) named plain tells.drain member
  simp only [Function.comp_apply, counterText, ← count]
  rw [labels]
  rfl

theorem Tells.durationLines (tells : r.Tells samples) :
    r.drain.durationLines.flatten = (r.drain.sorted.map (·.1)).flatMap fun s =>
      durationText r.service r.bounds samples (r.drain.sumText s) s := by
  rw [Recorder.durationLines, List.flatMap_def, List.map_map]
  refine congrArg List.flatten (List.map_congr_left fun p member => ?_)
  have found := tells.drain.lookup_sorted member
  have labels := Tells.labels_sorted (r := r.drain) named plain tells.drain member
  obtain ⟨-, buckets, total⟩ := tells.track found
  simp only [Function.comp_apply, durationText, histogramLines, ← buckets, ← total,
    ← label_infinite, sumText, found]
  rw [labels]
  rfl

/-- The text of a recorder that is read is that of the figures of the samples. -/
theorem Tells.families (tells : r.Tells samples) :
    ∃ all sums, all.Nodup ∧ (∀ s, s ∈ all ↔ s ∈ samples.map Sample.series) ∧
      r.drain.families = exposition r.service r.bounds samples sums all := by
  refine ⟨r.drain.sorted.map (·.1), r.drain.sumText, tells.drain.nodup_sorted,
    tells.drain.mem_sorted, ?_⟩
  have empty : r.drain.tracks.isEmpty = true ↔ r.drain.sorted.map (·.1) = [] := by
    rw [List.isEmpty_iff, List.map_eq_nil_iff, ← List.length_eq_zero_iff, ← List.length_eq_zero_iff,
      r.drain.sorted_perm.length_eq]
  rw [Recorder.families, exposition, tells.counterLines named plain,
    tells.durationLines named plain]
  simp only [empty]

end

section

variable {start : Recorder}

theorem tells_after (made : Recorder.new service bounds = .ok start) (uses : List Use) :
    (start.after uses).Tells (recorded uses) ∧ (start.after uses).bounds = bounds ∧
      (start.after uses).service = service := by
  obtain ⟨new, rfl, rfl⟩ := tells_of_new made
  exact new.after uses

theorem shown_after (made : Recorder.new service bounds = .ok start) (uses : List Use)
    (s : Series) :
    ((start.after uses).drain).shown s =
      if s ∈ (recorded uses).map Sample.series then some (figures bounds s (recorded uses))
      else none := by
  obtain ⟨tells, kept, -⟩ := tells_after made uses
  rw [tells.shown, kept]

/-- The order in which samples come in is not seen. -/
theorem shown_perm (made : Recorder.new service bounds = .ok start) {uses more : List Use}
    (same : (recorded uses).Perm (recorded more)) (s : Series) :
    ((start.after uses).drain).shown s = ((start.after more).drain).shown s := by
  have known : s ∈ (recorded uses).map Sample.series ↔ s ∈ (recorded more).map Sample.series :=
    (same.map _).mem_iff
  rw [shown_after made, shown_after made]
  simp only [known, figures_perm same]

/-- No figure of a series gets smaller. -/
theorem shown_grows (made : Recorder.new service bounds = .ok start) (uses more : List Use)
    {s : Series} {f : Figures} (before : ((start.after uses).drain).shown s = some f) :
    ∃ g, ((start.after (uses ++ more)).drain).shown s = some g ∧ f.AtMost g := by
  rw [shown_after made] at before
  by_cases came : s ∈ (recorded uses).map Sample.series
  · rw [if_pos came] at before
    refine ⟨figures bounds s (recorded (uses ++ more)), ?_, ?_⟩
    · rw [shown_after made, if_pos]
      rw [recorded_append, List.map_append]
      exact List.mem_append_left _ came
    · rw [← Option.some.inj before, recorded_append]
      exact figures_atMost_append _ _ _ _
  · rw [if_neg came] at before
    cases before

/-- Counters and histograms stay in step, whatever is recorded and however often the recorder is
read in between. A series that came up shows the number of its samples as its counter and as the
total of its histogram, and in each bucket the number of those that are at most its bound or one
before it. -/
theorem counters_in_step (made : Recorder.new service bounds = .ok start) :
    (∀ uses : List Use,
      let samples := recorded uses
      let read := (start.after uses).drain
      (∀ s, read.shown s =
        if s ∈ samples.map Sample.series then some (figures bounds s samples) else none) ∧
      (read.tracks.map (·.1)).Nodup ∧
      (Plain service → (∀ s ∈ samples.map Sample.series, s.Plain) →
        (∃ all sums, all.Nodup ∧ (∀ s, s ∈ all ↔ s ∈ samples.map Sample.series) ∧
          read.families = exposition service bounds samples sums all) ∧
        ∀ s ∈ samples.map Sample.series, ∀ t ∈ samples.map Sample.series,
          Text.joined "," (s.verbatim service) = Text.joined "," (t.verbatim service) → s = t) ∧
      (bounds.IsChain (· ≤ ·) → ∀ s, (figures bounds s samples).buckets =
        bounds.map fun b => samples.countP fun x => x.series = s ∧ x.millis ≤ b)) ∧
    (∀ (before later : List Use) (xs ys : List Sample), xs.Perm ys → ∀ s,
      ((start.after (before ++ xs.map .sample ++ later)).drain).shown s =
        ((start.after (before ++ ys.map .sample ++ later)).drain).shown s) ∧
    ∀ (uses more : List Use) s f, ((start.after uses).drain).shown s = some f →
      ∃ g, ((start.after (uses ++ more)).drain).shown s = some g ∧ f.AtMost g := by
  refine ⟨?_, ?_, ?_⟩
  · intro uses samples read
    obtain ⟨tells, kept, name⟩ := tells_after made uses
    refine ⟨shown_after made uses, tells.drain.distinct, ?_, fun ascending s => ?_⟩
    · intro named plain
      refine ⟨?_, ?_⟩
      · rw [← kept, ← name]
        exact tells.families (name ▸ named) plain
      · intro s came t came' same
        exact Series.eq_of_joined_verbatim (plain s came) (plain t came') same
    · exact held_of_ascending ascending s samples
  · intro before later xs ys same s
    refine shown_perm made ?_ s
    simp only [recorded_append, recorded_samples]
    exact (same.append_left _).append_right _
  · intro uses more s f before
    exact shown_grows made uses more before

/-- Three requests of two series, with a reading in between. -/
theorem counters_in_step_default :
    let quick : Sample := ⟨"GET", "/cats/:id", 200, .ofMillis 7⟩
    let slow : Sample := ⟨"GET", "/cats/:id", 200, .ofMillis 90⟩
    let failed : Sample := ⟨"GET", "/cats/:id", 500, .ofMillis 7⟩
    let start : Recorder := ⟨"cats", defaultBounds, []⟩
    let samples := [quick, failed, slow]
    let read := (start.after [.sample quick, .read, .sample failed, .sample slow]).drain
    Recorder.new "cats" defaultBounds = .ok start ∧
      read.shown quick.series = some ⟨2, [0, 1, 1, 1, 2, 2, 2, 2, 2, 2, 2, 2, 2], 2⟩ ∧
      (∃ all sums, all.Nodup ∧ (∀ s, s ∈ all ↔ s ∈ samples.map Sample.series) ∧
        read.families = exposition "cats" defaultBounds samples sums all) ∧
      (figures defaultBounds quick.series samples).buckets =
        defaultBounds.map fun b =>
          samples.countP fun x => x.series = quick.series ∧ x.millis ≤ b := by
  intro quick slow failed start samples read
  have made : Recorder.new "cats" defaultBounds = .ok start := rfl
  obtain ⟨shown, -, text, ascending⟩ := (counters_in_step made).1
    [.sample quick, .read, .sample failed, .sample slow]
  refine ⟨made, ?_, ?_, ?_⟩
  · rw [shown]
    decide +kernel
  · exact (text (by decide) (by decide)).1
  · exact ascending (by decide +kernel) quick.series

/-- Bounds are taken as they are listed, so a bucket also holds what one before it holds; and a
duration in milliseconds is the nearest product of its seconds, which may be above a bound that the
duration meets. -/
theorem buckets_as_listed :
    let quick : Sample := ⟨"GET", "/cats/:id", 200, .ofMillis 7⟩
    let met : Sample := ⟨"GET", "/cats/:id", 200, .ofMillis 1132⟩
    (∃ start, Recorder.new "cats" [10.0, 5.0] = .ok start ∧
      ((start.after [.sample quick]).drain).shown quick.series = some ⟨1, [1, 1], 1⟩ ∧
      quick.millis = 7.0 ∧ ¬ (7.0 : Float) ≤ 5.0) ∧
    ∃ start, Recorder.new "cats" [1132.0] = .ok start ∧
      ((start.after [.sample met]).drain).shown met.series = some ⟨1, [0], 1⟩ ∧
      met.duration.nanos = 1132 * 1_000_000 := by
  refine ⟨⟨_, rfl, ?_, ?_, ?_⟩, _, rfl, ?_, ?_⟩ <;> decide +kernel

end

end Recorder

end Ingress.Metrics
