import Ingress.Metrics.Sample

/-!
# The recorder

Requests are counted in series, one for each combination of method, route and status. A series has a
counter and a histogram of durations in milliseconds. Durations are put aside when they are recorded
and go into the histogram when the recorder is read.
-/

namespace Ingress.Metrics

/-- What the requests of one series have in common. -/
structure Series where
  method : String
  route : String
  status : Nat
deriving DecidableEq

/-- The class of a status. -/
def statusClass (status : Nat) : String := toString (status / 100) ++ "xx"

/-- The series of a sample. -/
def Sample.series (s : Sample) : Series := ⟨s.method, s.route, s.status⟩

/-- The duration of a sample in milliseconds. -/
def Sample.millis (s : Sample) : Float := s.duration.seconds * 1000.0

/-- A distribution of values over buckets, each of which also holds what is in the ones before it.
-/
structure Histogram where
  buckets : List Nat
  sum : Float
  count : Nat

namespace Histogram

/-- A distribution of no values. -/
def empty (bounds : List Float) : Histogram := ⟨bounds.map fun _ => 0, 0.0, 0⟩

/-- The numbers of values whose first bound in the list that is not below them is each of the
bounds. -/
def tally (bounds : List Float) (values : List Float) : List Nat :=
  (List.range bounds.length).map fun i =>
    values.countP fun x => bounds.findIdx (fun b => x ≤ b) = i

/-- Sums of the numbers up to each place. -/
def runningSums (start : Nat) : List Nat → List Nat
  | [] => []
  | n :: rest => (start + n) :: runningSums (start + n) rest

/-- Adds values that were put aside together. -/
def record (bounds : List Float) (values : List Float) (h : Histogram) : Histogram where
  buckets := List.zipWith (· + ·) h.buckets (runningSums 0 (tally bounds values))
  sum := h.sum + values.foldl (· + ·) 0.0
  count := h.count + values.length

end Histogram

/-- The state of a series. -/
structure Track where
  count : Nat
  /-- Durations put aside, in blocks, the latest block first and each block in order. -/
  pending : List (List Float)
  histogram : Histogram

namespace Track

/-- How many durations a block holds. -/
def blockSize : Nat := 64

/-- Puts a duration aside. -/
def keep (x : Float) : List (List Float) → List (List Float)
  | [] => [[x]]
  | block :: rest =>
    if block.length < blockSize then (block ++ [x]) :: rest else [x] :: block :: rest

/-- Counts a request. -/
def record (millis : Float) (t : Track) : Track :=
  { t with count := t.count + 1, pending := keep millis t.pending }

/-- Takes what was put aside into the histogram, the latest block first. -/
def drain (bounds : List Float) (t : Track) : Track :=
  { t with
    pending := []
    histogram := t.pending.foldl (fun h block => h.record bounds block) t.histogram }

end Track

/-- Counts requests. -/
structure Recorder where
  /-- The name of the service, or nothing. -/
  service : String
  /-- The bounds of the buckets, in milliseconds. -/
  bounds : List Float
  /-- The series met so far. -/
  tracks : List (Series × Track)

/-- Why there is no recorder: without bounds there are no buckets. -/
inductive RecorderError
  | noBounds
deriving DecidableEq

/-- The error in words. -/
def RecorderError.message : RecorderError → String
  | .noBounds => "bucket bounds/quantiles cannot be empty"

namespace Recorder

/-- The bounds of a recorder that is not told others. -/
def defaultBounds : List Float :=
  [5.0, 10.0, 25.0, 50.0, 100.0, 250.0, 500.0, 1000.0, 2500.0, 5000.0, 10000.0, 30000.0, 60000.0]

/-- A recorder that has counted nothing. -/
def new (service : String) (bounds : List Float) : Except RecorderError Recorder :=
  if bounds.isEmpty then .error .noBounds else .ok ⟨service, bounds, []⟩

/-- Changes the state of a series, which begins empty. -/
def update (bounds : List Float) (series : Series) (f : Track → Track) :
    List (Series × Track) → List (Series × Track)
  | [] => [(series, f ⟨0, [], .empty bounds⟩)]
  | (s, t) :: rest =>
    if s = series then (s, f t) :: rest else (s, t) :: update bounds series f rest

/-- Counts a request. -/
def record (sample : Sample) (r : Recorder) : Recorder :=
  { r with tracks := update r.bounds sample.series (Track.record sample.millis) r.tracks }

/-- The recorder when it has been read. -/
def drain (r : Recorder) : Recorder :=
  { r with tracks := r.tracks.map fun (s, t) => (s, t.drain r.bounds) }

end Recorder

end Ingress.Metrics
