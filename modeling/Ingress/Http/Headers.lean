import Ingress.Text.Ascii

/-!
# Headers

A header list holds values under names that are compared in small letters. A name may have several
values.
-/

namespace Ingress

/-- Header names, in small letters, with their values. -/
abbrev Headers := List (String × ByteArray)

namespace Headers

/-- The name that carries the trace id, inbound, outbound and on every response. -/
def traceId : String := "traceid"

/-- The name that carries the caller's credentials. -/
def authorization : String := "authorization"

/-- The name that carries the media type of the body. -/
def contentType : String := "content-type"

/-- The name that carries the seconds to wait before another try. -/
def retryAfter : String := "retry-after"

/-- The first value of a name. -/
def get? (name : String) (h : Headers) : Option ByteArray :=
  (h.find? (·.1 = name)).map (·.2)

/-- All values of a name. -/
def getAll (name : String) (h : Headers) : List ByteArray :=
  (h.filter (·.1 = name)).map (·.2)

/-- Makes a value the only one of its name. -/
def insert (name : String) (value : ByteArray) (h : Headers) : Headers :=
  h.filter (·.1 ≠ name) ++ [(name, value)]

/-- Puts headers over others: a name that comes among them loses its earlier values. -/
def extend (h more : Headers) : Headers :=
  h.filter (fun p => !more.any fun q => q.1 = p.1) ++ more

/-- The headers of a list of names in any case, all values kept. -/
def ofPairs (pairs : List (String × ByteArray)) : Headers :=
  pairs.map fun p => (Text.lowerAscii p.1, p.2)

theorem getAll_insert_self (name : String) (value : ByteArray) (h : Headers) :
    (h.insert name value).getAll name = [value] := by
  simp [insert, getAll, List.filter_append, List.filter_filter]

theorem getAll_insert_other {name other : String} (hne : other ≠ name) (value : ByteArray)
    (h : Headers) : (h.insert name value).getAll other = h.getAll other := by
  have : ∀ p : String × ByteArray,
      (decide (p.1 = other) && !decide (p.1 = name)) = decide (p.1 = other) := by
    intro p
    by_cases h : p.1 = other <;> simp [h, hne]
  simp [insert, getAll, List.filter_append, List.filter_filter, this, hne.symm]

end Headers

end Ingress
