import Ingress.Decimal.Layout
import Ingress.Metrics.Recorder
import Ingress.Text.Ascii

/-!
# Metrics as text

What a scraper reads: for each family a line of help, a line with its type, and the lines of its
series. Labels are quoted; a backslash that already seems to escape something is not escaped again.
-/

namespace Ingress.Metrics

/-- The characters of a label value, where `pending` tells whether a backslash has not been written
yet. -/
def escapeLabel (pending : Bool) : List Char → List Char
  | [] => if pending then ['\\', '\\'] else []
  | '\n' :: rest => '\\' :: 'n' :: escapeLabel pending rest
  | '"' :: rest => '\\' :: '"' :: escapeLabel false rest
  | '\\' :: rest =>
    if pending then '\\' :: '\\' :: escapeLabel false rest else escapeLabel true rest
  | c :: rest =>
    if pending then '\\' :: '\\' :: c :: escapeLabel false rest else c :: escapeLabel false rest

/-- One label. -/
def label (name value : String) : String :=
  name ++ "=\"" ++ String.ofList (escapeLabel false value.toList) ++ "\""

/-- The name of the counters. -/
def countName : String := "http_server_requests_count"

/-- The name of the histograms. -/
def durationName : String := "http_server_requests_duration"

/-- The labels of a series. -/
def Series.labels (service : String) (s : Series) : List String :=
  (if service = "" then [] else [label "service" service])
    ++ [label "http_method" s.method, label "http_route" s.route,
      label "http_status_code" (toString s.status),
      label "http_status_class" (statusClass s.status)]

/-- A line with a name, labels and a value. -/
def line (name : String) (labels : List String) (value : String) : String :=
  name ++ "\x7b" ++ Text.joined "," labels ++ "\x7d " ++ value

/-- The lines of a histogram. -/
def histogramLines (bounds : List Float) (labels : List String) (h : Histogram) : List String :=
  (List.zipWith (fun b n => line (durationName ++ "_bucket")
      (labels ++ [label "le" (Decimal.Layout.plain.write b)]) (toString n)) bounds h.buckets)
    ++ [line (durationName ++ "_bucket") (labels ++ [label "le" "+Inf"]) (toString h.count),
      line (durationName ++ "_sum") labels (Decimal.Layout.plain.write h.sum),
      line (durationName ++ "_count") labels (toString h.count)]

namespace Recorder

/-- The series in the order of their labels. -/
def sorted (r : Recorder) : List (Series × Track) :=
  let key (s : Series) : String := Text.joined "," (s.labels r.service)
  r.tracks.mergeSort fun a b => decide (key a.1 ≤ key b.1)

/-- The lines of the counters. -/
def counterLines (r : Recorder) : List String :=
  r.sorted.map fun (s, t) => line countName (s.labels r.service) (toString t.count)

/-- The lines of the histograms, each series by itself. -/
def durationLines (r : Recorder) : List (List String) :=
  r.sorted.map fun (s, t) => histogramLines r.bounds (s.labels r.service) t.histogram

/-- The text of a recorder that has been read, family by family. There is none before the first
request. -/
def families (r : Recorder) : List (List String) :=
  if r.tracks.isEmpty then []
  else
    [("# HELP " ++ countName ++ " Total number of HTTP requests processed")
      :: ("# TYPE " ++ countName ++ " counter") :: r.counterLines,
    ("# HELP " ++ durationName ++ " HTTP request duration in milliseconds")
      :: ("# TYPE " ++ durationName ++ " histogram") :: r.durationLines.flatten]

/-- The numbers of requests of the series: the counters and the totals of the histograms. -/
def countLines (r : Recorder) : List String :=
  r.counterLines ++ r.sorted.map fun (s, t) =>
    line (durationName ++ "_count") (s.labels r.service) (toString t.histogram.count)

end Recorder

end Ingress.Metrics
