import Mathlib.Data.List.Perm.Basic
import Ingress.Route
import Ingress.Proofs.Json.Decoding

/-!
# Written routes

A route is read back from what it is written as, with its limit cut to whole milliseconds. The same
route is read from any text of the same fields, in whatever order they stand; the method is then
taken as it is written.
-/

namespace Ingress

open Json Json.Reading

namespace Duration

/-- The whole milliseconds of a duration are a duration that is no longer. -/
theorem nanos_ofMillis_millis (d : Duration) :
    (ofMillis d.millis).nanos = d.nanos / 1_000_000 * 1_000_000 := by
  have shorter : d.nanos / 1_000_000 * 1_000_000 ≤ d.nanos := Nat.div_mul_le_self _ _
  have bound := d.nanos_lt
  refine Nat.min_eq_left ?_
  unfold millis maxNanos
  omega

/-- A duration is the one of its whole milliseconds exactly if nothing is left over. -/
theorem ofMillis_millis_eq_iff {d : Duration} :
    ofMillis d.millis = d ↔ d.nanos % 1_000_000 = 0 := by
  have cut := nanos_ofMillis_millis d
  constructor
  · intro same
    rw [same] at cut
    omega
  · intro whole
    have same : (ofMillis d.millis).nanos = d.nanos := by omega
    cases h : ofMillis d.millis
    cases d
    simp_all

end Duration

namespace Route

variable {method template component operation : String} {limit : Option Nat}

/-- The fields of a written route. -/
def fields (method template component operation : String) (limit : Option Nat) :
    List (String × Json) :=
  [("method", .string method), ("template", .string template), ("component", .string component),
    ("operation", .string operation), ("max_duration", .ofOption .ofNat limit)]

theorem toJson_eq (r : Route) : r.toJson = .object (fields r.method r.template r.component
    r.operation (r.maxDuration.map fun d => d.millis % UInt64.size)) := by
  cases h : r.maxDuration <;> simp [toJson, fields, h, Json.ofOption]

theorem isExact_ofNat {k : Nat} (fits : k < UInt64.size) : (Json.ofNat k).IsExact := by
  simp only [Json.ofNat, IsExact, Number.IsExact, Number.maxSigned, Number.maxUnsigned]
  omega

theorem isExact_fields (fits : ∀ k ∈ limit, k < UInt64.size) :
    (Json.object (fields method template component operation limit)).IsExact := by
  have number : (Json.ofOption .ofNat limit).IsExact := by
    cases limit with
    | none => trivial
    | some k => exact isExact_ofNat (fits k rfl)
  exact ⟨trivial, trivial, trivial, trivial, number, trivial⟩

/-- A route is read from its fields, in whatever order they stand. -/
theorem decode_fields (fits : ∀ k ∈ limit, k < UInt64.size) {ms : List (String × Json)}
    (same : ms.Perm (fields method template component operation limit)) :
    decode (ofJson (.object ms)) =
      .ok ⟨method, template, component, operation, limit.map .ofMillis⟩ := by
  have text (s : String) : Decoder.text (ofJson (.string s)) = .ok s := rfl
  have number : Decoder.optional (Decoder.unsigned 64 "u64") (ofJson (.ofOption .ofNat limit)) =
      .ok limit :=
    Decoder.optional_ofOption (fun k some => Decoder.unsigned_ofNat (fits k some) "u64")
      fun _ _ => nofun
  have each : ∀ m ∈ fields method template component operation limit, shape.Fits m := by
    simp only [fields, List.forall_mem_cons]
    exact ⟨.of_reads rfl rfl (text _), .of_reads rfl rfl (text _), .of_reads rfl rfl (text _),
      .of_reads rfl rfl (text _), .of_reads rfl rfl number, by simp⟩
  have distinct : (ms.map (·.1)).Nodup :=
    (same.map _).nodup_iff.2 (by simp [fields])
  obtain ⟨fs, decoded, found⟩ :=
    Shape.decode_object (fun m member => each m (same.mem_iff.1 member)) distinct
  replace found := fun m member => found m (same.mem_iff.2 member)
  simp only [fields, List.forall_mem_cons] at found
  obtain ⟨atMethod, atTemplate, atComponent, atOperation, atLimit, -⟩ := found
  simp only [decode, decoded, ok_bind, member_ok atMethod (text _), member_ok atTemplate (text _),
    member_ok atComponent (text _), member_ok atOperation (text _), memberD_ok atLimit number]
  rfl

/-- A text is decoded as the value that it holds. -/
theorem decodeText_of_ofGlyphs {d : Decoder α} {text : String} {j : Json}
    (holds : ofGlyphs (Text.glyphs text) = (ofJson j, true)) :
    decodeText d text = d (ofJson j) := by
  rw [decodeText, decodeGlyphs, holds]
  exact bind_pure (d (ofJson j))

/-- A route is read back with the whole milliseconds of its limit, as far as they fit 64 bits. -/
theorem decodeText_write (r : Route) :
    decodeText decode r.toJson.write = .ok { r with
      maxDuration := r.maxDuration.map fun d => .ofMillis (d.millis % UInt64.size) } := by
  have small : ∀ k ∈ r.maxDuration.map fun d => d.millis % UInt64.size, k < UInt64.size := by
    intro k member
    obtain ⟨d, -, rfl⟩ := Option.map_eq_some_iff.1 member
    exact Nat.mod_lt _ (by decide)
  have read := decode_fields small (.refl (fields r.method r.template r.component r.operation
    (r.maxDuration.map fun d => d.millis % UInt64.size)))
  rw [toJson_eq, decodeText_of_ofGlyphs (ofGlyphs_write (isExact_fields small)), read,
    Option.map_map]
  rfl

theorem lt_of_minutesToMillis? {minutes : Float} {ms : Nat}
    (set : minutesToMillis? minutes = some ms) : ms < UInt64.size := by
  unfold minutesToMillis? at set
  have positive : 0 < UInt64.size := by decide
  split at set
  · cases set
  · cases set
    exact Nat.sub_lt positive Nat.one_pos
  · cases set
    have := Nat.min_le_right (Decimal.roundToNat (minutes * 60000.0)) (UInt64.size - 1)
    omega

/-- A limit that was set in minutes is a whole number of milliseconds that fits 64 bits. -/
theorem whole_of_withMinutes {r : Route} (unset : r.maxDuration = none) (minutes : Float) :
    ∀ d ∈ (r.withMinutes minutes).maxDuration,
      d.millis < UInt64.size ∧ Duration.ofMillis d.millis = d := by
  intro d member
  unfold withMinutes at member
  cases read : minutesToMillis? minutes with
  | none =>
    rw [read] at member
    simp [unset] at member
  | some ms =>
    rw [read] at member
    cases Option.mem_some_iff.1 member
    have fits := lt_of_minutesToMillis? read
    have nanos := Duration.nanos_ofMillis fits
    refine ⟨?_, Duration.ofMillis_millis_eq_iff.2 ?_⟩
    · unfold Duration.millis
      omega
    · omega

/-- A route comes back from its written form. Without a limit, or with one that was set in minutes,
it is read back as it was. A limit whose milliseconds fit 64 bits comes back in whole milliseconds,
so that the route is the same exactly if nothing was left over. And any text that holds the fields
of a route, in whatever order, with its method in capitals and its limit in milliseconds, is read as
the route that is made of them. -/
theorem written_route_returns (method template component operation : String) :
    decodeText decode (new method template component operation).toJson.write =
      .ok (new method template component operation) ∧
    let r := new method template component operation
    (∀ minutes : Float,
      decodeText decode (r.withMinutes minutes).toJson.write = .ok (r.withMinutes minutes)) ∧
    (∀ d : Duration, d.millis < UInt64.size →
      decodeText decode (r.withMaxDuration d).toJson.write =
          .ok (r.withMaxDuration (.ofMillis d.millis)) ∧
        (decodeText decode (r.withMaxDuration d).toJson.write = .ok (r.withMaxDuration d) ↔
          d.nanos % 1_000_000 = 0)) ∧
    (Text.upperAscii method = method → ∀ k < UInt64.size, ∀ (ms : List (String × Json))
      (text : String), ms.Perm (fields method template component operation (some k)) →
        ofGlyphs (Text.glyphs text) = (ofJson (.object ms), true) →
          decodeText decode text = .ok (r.withMaxDuration (.ofMillis k))) := by
  refine ⟨decodeText_write _, ?_⟩
  intro r
  refine ⟨?_, ?_, ?_⟩
  · intro minutes
    have whole := whole_of_withMinutes (r := r) rfl minutes
    have same : ((r.withMinutes minutes).maxDuration.map fun d =>
        Duration.ofMillis (d.millis % UInt64.size)) = (r.withMinutes minutes).maxDuration := by
      refine (Option.map_congr fun d set => ?_).trans Option.map_id'
      rw [Nat.mod_eq_of_lt (whole d set).1, (whole d set).2]
    rw [decodeText_write, same]
  · intro d fits
    have read : decodeText decode (r.withMaxDuration d).toJson.write =
        .ok (r.withMaxDuration (.ofMillis d.millis)) := by
      rw [decodeText_write]
      simp [withMaxDuration, Nat.mod_eq_of_lt fits]
    refine ⟨read, ?_⟩
    rw [read, ← Duration.ofMillis_millis_eq_iff]
    constructor
    · intro same
      have limits := congrArg Route.maxDuration (Except.ok.inj same)
      exact Option.some.inj limits
    · intro same
      exact congrArg (fun e => Except.ok (r.withMaxDuration e)) same
  · intro capitals k fits ms text same holds
    rw [decodeText_of_ofGlyphs holds,
      decode_fields (by simpa using fits) same]
    simp [r, new, withMaxDuration, capitals]

/-- Five seconds, written and read back, and read from the fields in the opposite order. -/
theorem written_route_returns_five_seconds :
    let r := new "GET" "/cats/:id" "cats" "find_one"
    let d := Duration.ofSecs 5
    let ms := (fields "GET" "/cats/:id" "cats" "find_one" (some 5000)).reverse
    d.millis < UInt64.size ∧ d.nanos % 1_000_000 = 0 ∧
      decodeText decode (r.withMaxDuration d).toJson.write = .ok (r.withMaxDuration d) ∧
      Text.upperAscii "GET" = "GET" ∧ 5000 < UInt64.size ∧
      decodeText decode (Json.object ms).write = .ok (r.withMaxDuration (.ofMillis 5000)) := by
  intro r d ms
  obtain ⟨-, -, limited, read⟩ := written_route_returns "GET" "/cats/:id" "cats" "find_one"
  have fits : d.millis < UInt64.size := by decide
  have whole : d.nanos % 1_000_000 = 0 := by decide
  have capitals : Text.upperAscii "GET" = "GET" := by decide +kernel
  have small : 5000 < UInt64.size := by decide
  have exact : (Json.object ms).IsExact :=
    ⟨isExact_ofNat small, trivial, trivial, trivial, trivial, trivial⟩
  exact ⟨fits, whole, (limited d fits).2.2 whole, capitals, small,
    read capitals 5000 small ms _ (List.reverse_perm _) (ofGlyphs_write exact)⟩

/-- Half a millisecond is written as none and so are `2 ^ 64` milliseconds, so that another limit
comes back. And a method in small letters stays as it is where it is read, while a route that is
made with it has it in capitals. -/
theorem written_route_differs :
    let r := new "GET" "/cats/:id" "cats" "find_one"
    let written := Json.object (fields "get" "/cats/:id" "cats" "find_one" (some 5000))
    (∀ d ∈ [Duration.ofMicros 500, Duration.ofMillis UInt64.size],
      decodeText decode (r.withMaxDuration d).toJson.write = .ok (r.withMaxDuration .zero) ∧
        decodeText decode (r.withMaxDuration d).toJson.write ≠ .ok (r.withMaxDuration d)) ∧
    decodeText decode written.write ≠
      .ok ((new "get" "/cats/:id" "cats" "find_one").withMaxDuration (.ofMillis 5000)) := by
  intro r written
  refine ⟨?_, ?_⟩
  · have cut : ∀ d ∈ [Duration.ofMicros 500, Duration.ofMillis UInt64.size],
        Duration.ofMillis (d.millis % UInt64.size) = .zero ∧ Duration.zero ≠ d := by decide
    intro d among
    obtain ⟨lost, other⟩ := cut d among
    have read : decodeText decode (r.withMaxDuration d).toJson.write =
        .ok (r.withMaxDuration .zero) := by
      rw [decodeText_write, withMaxDuration, Option.map_some, lost]
      rfl
    refine ⟨read, ?_⟩
    rw [read]
    intro same
    have limits := congrArg Route.maxDuration (Except.ok.inj same)
    exact other (Option.some.inj limits)
  · have fits : ∀ k ∈ some 5000, k < UInt64.size := by decide
    have read :=
      decode_fields fits (.refl (fields "get" "/cats/:id" "cats" "find_one" (some 5000)))
    rw [decodeText_of_ofGlyphs (ofGlyphs_write (isExact_fields fits)), read]
    intro same
    have methods := congrArg Route.method (Except.ok.inj same)
    exact absurd methods (by decide +kernel)

end Route

end Ingress
