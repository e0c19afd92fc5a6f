import Ingress.Log
import Ingress.Pattern.Matching
import Ingress.Text.Blank
import Ingress.Text.Pieces
import Ingress.Decimal.Reader

/-!
# Filters of the log

A filter is a list of directives with commas between them. A directive names a level and what it is
for: the events of a target, the events within a span, or the events that have some field. Of the
directives that apply to an event the most specific one decides how important the event has to be.
The text of a field is compared with a pattern.
-/

namespace Ingress.Log

/-- What a directive asks of a field: that it is there, or that its value is as described. -/
structure Condition where
  name : String
  value : Option String
deriving DecidableEq

/-- Whether a described value is a text: truth values and numbers are not. -/
def isTextual (value : String) : Bool :=
  value ≠ "true" && value ≠ "false" && (Decimal.read? value).isNone

/-- Whether a text is as described by a pattern. -/
def fits (value text : String) : Bool :=
  isTextual value && (Pattern.Expr.ofChars? value.toList).any (·.matchesToEnd text)

/-- One part of a filter. -/
structure Directive where
  /-- The last level that passes, if any does. -/
  level : Option Level
  /-- The front of the targets that the directive is for. -/
  target : Option String
  /-- The span within which it holds. -/
  span : Option String
  field : Option Condition
deriving DecidableEq

/-- Whether an event of some level is important enough. -/
def passes (last : Option Level) (level : Level) : Bool :=
  match last with
  | some last => level.rank ≤ last.rank
  | none => false

/-- The last level that a word names: one of the levels in any case, or a number from 0 to 5. -/
def lastLevel? (word : String) : Option (Option Level) :=
  match Text.readNat? word with
  | some n => if n = 0 then some none else (Level.all[n - 1]?).map some
  | none =>
    if Text.sameWord word "off" then some none
    else (Level.all.find? fun l => Text.sameWord word l.name).map some

/-- A span of the log: a stretch of time with a name, a level and texts. -/
structure Scope where
  name : String
  target : String
  level : Level
  fields : List (String × String)
deriving DecidableEq

namespace Directive

/-! ## Reading -/

/-- Where in a directive a character stands, and at which place that part of it began. -/
inductive Place
  | start
  /-- In a level or a target. -/
  | word (began : Nat)
  | span (began : Nat)
  | field (began : Nat)
  /-- Behind a field. -/
  | afterField
  /-- Behind a span. -/
  | afterSpan
  | level (began : Nat)

/-- A directive for everything, which has still to be read. -/
def blank : Directive := ⟨some .trace, none, none, none⟩

/-- The characters from one place up to another, the first one of them at a given place. Places are
counted in bytes. -/
def cutFrom (at_ began stop : Nat) : List Char → List Char
  | [] => []
  | c :: rest =>
    let more := cutFrom (at_ + c.utf8Size) began stop rest
    if began ≤ at_ ∧ at_ < stop then c :: more else more

/-- The characters from one place up to another. -/
def cut (all : List Char) (began stop : Nat) : String := String.ofList (cutFrom 0 began stop all)

/-- The number of bytes of characters. -/
def width (cs : List Char) : Nat := cs.foldl (fun bytes c => bytes + c.utf8Size) 0

/-- The condition that a text stands for: a name, or a name and a value. A value that is a text has
to be a pattern. -/
def condition? (text : String) : Option Condition :=
  match Text.pieces '=' text.toList with
  | name :: value :: _ =>
    let described := String.ofList value
    if !isTextual described || (Pattern.Expr.ofChars? value).isSome then
      some ⟨String.ofList name, some described⟩
    else none
  | _ => some ⟨text, none⟩

/-- The next character, which stands at a place. -/
def read (all : List Char) (at_ : Nat) (c : Char) (place : Place) (d : Directive) :
    Option (Place × Directive) :=
  match place with
  | .start =>
    if c = '[' then some (.span (at_ + 1), d)
    else if c = '-' ∨ c = ':' ∨ c = '_' ∨ Text.isLetterOrDigit c then some (.word at_, d)
    else none
  | .word began =>
    if c = '=' then some (.level (at_ + 1), { d with target := some (cut all began at_) })
    else if c = '[' then some (.span (at_ + 1), { d with target := some (cut all began at_) })
    else some (place, d)
  | .span began =>
    if c = ']' then some (.afterSpan, { d with span := some (cut all began at_) })
    else if c = '\x7b' then
      let name := cut all began at_
      some (.field (at_ + 1), { d with span := if name = "" then none else some name })
    else some (place, d)
  | .field began =>
    if c = '\x7d' then
      let text := cut all began at_
      if text = "" then none
      else (condition? text).map fun c => (.afterField, { d with field := some c })
    else some (place, d)
  | .afterField => if c = ']' then some (.afterSpan, d) else none
  | .afterSpan => if c = '=' then some (.level (at_ + 1), d) else none
  | .level _ => some (place, d)

/-- The end of a directive: what began last reaches up to it. -/
def close (all : List Char) (place : Place) (d : Directive) : Option Directive :=
  match place with
  | .word began =>
    let word := cut all began (width all)
    match lastLevel? word with
    | some level => some { d with level }
    | none => some { d with target := some word }
  | .level began =>
    let word := cut all began (width all)
    if word = "" then some d else (lastLevel? word).map fun level => { d with level }
  | .afterSpan => some d
  | _ => none

/-- Reads on from a place. -/
def readFrom (all : List Char) (at_ : Nat) (place : Place) (d : Directive) :
    List Char → Option Directive
  | [] => close all place d
  | c :: rest =>
    match read all at_ c place d with
    | some (place, d) => readFrom all (at_ + c.utf8Size) place d rest
    | none => none

/-- The directive that characters stand for. Blanks in front do not count as characters of it, but
places are counted as if the directive began with them. -/
def ofChars? (cs : List Char) : Option Directive :=
  readFrom cs 0 .start blank (Text.trimBlanks cs)

/-! ## What directives are for -/

/-- Whether a directive depends on the spans around an event. -/
def isDynamic (d : Directive) : Bool := d.span.isSome || d.field.isSome

/-- Whether a directive can be applied to an event alone. -/
def isStatic (d : Directive) : Bool := d.span.isNone && d.field.all (·.value.isNone)

/-- Whether a target is one of those that a directive is for. -/
def coversTarget (d : Directive) (target : String) : Bool :=
  d.target.all fun front => front.toList.isPrefixOf target.toList

/-- Whether a directive replaces another one: both are for the same. -/
def replaces (d e : Directive) : Bool :=
  d.target = e.target && d.span = e.span && d.field = e.field

/-- Whether some field is there, if the directive asks for one. -/
def hasField (d : Directive) (names : List String) : Bool :=
  d.field.all fun c => names.contains c.name

/-- How specific a directive is: the longer its target the more, and then if it names a field. -/
def weight (d : Directive) : Nat × Nat :=
  (match d.target with
    | some t => t.utf8ByteSize + 1
    | none => 0,
    if d.field.isSome then 1 else 0)

/-- Whether a directive is at least as specific as another one; of two fields the name that comes
last counts more. -/
def outweighs (d e : Directive) : Bool :=
  let (a, b) := d.weight
  let (c, f) := e.weight
  if a ≠ c then c < a
  else if b ≠ f then f < b
  else match d.field, e.field with
    | some x, some y => y.name ≤ x.name
    | _, _ => true

end Directive

/-- Directives in the order in which they are written. -/
structure Filter where
  directives : List Directive

namespace Filter

/-- The filter that a text stands for. One that says nothing lets errors through. -/
def ofText? (s : String) : Option Filter := do
  let directives ← ((Text.pieces ',' s.toList).filter (· ≠ [])).mapM Directive.ofChars?
  pure ⟨if directives = [] then [⟨some .error, none, none, none⟩] else directives⟩

/-- The most specific of some directives; of equals the last one. -/
def mostSpecific (ds : List Directive) : Option Directive :=
  ds.foldl (fun best d =>
    match best with
    | some b => if d.outweighs b then some d else best
    | none => some d) none

/-- Whether the most specific of some directives lets a level through. -/
def decides (ds : List Directive) (level : Level) : Bool :=
  (mostSpecific ds).any fun d => passes d.level level

/-- The directives that no later one replaces. -/
def lasting : List Directive → List Directive
  | [] => []
  | d :: rest => if rest.any (·.replaces d) then lasting rest else d :: lasting rest

/-- The directives that apply to an event wherever it happens. -/
def applying (f : Filter) (e : Event) : List Directive :=
  (lasting f.directives).filter fun d =>
    d.isStatic && d.coversTarget e.target && d.hasField e.fieldNames

/-- The directives that hold within a span, if its texts are as they ask. -/
def holding (f : Filter) (s : Scope) : List Directive :=
  (lasting f.directives).filter fun d =>
    d.isDynamic && d.coversTarget s.target && d.span.all (· = s.name)
      && d.hasField (s.fields.map (·.1))

/-- Whether the texts of a span are as a directive asks. -/
def meets (s : Scope) (d : Directive) : Bool :=
  match d.field with
  | some ⟨name, some value⟩ => s.fields.any fun field => field.1 = name && fits value field.2
  | _ => true

/-- Whether spans of a level are looked at: some directive, even one that is replaced, lets the
level through, or the values of fields decide. -/
def considers (f : Filter) (level : Level) : Bool :=
  f.directives.any fun d => passes d.level level || d.field.any (·.value.isSome)

/-- Whether a span itself is seen. -/
def seesScope (f : Filter) (s : Scope) : Bool :=
  f.considers s.level
    && (!(f.holding s).isEmpty
      || decides ((lasting f.directives).filter fun d => d.isStatic && d.coversTarget s.target)
        s.level)

/-- Whether an event is let through that happens in a span, or in none. -/
def allows (f : Filter) (within_ : Option Scope) (e : Event) : Bool :=
  (within_.any fun s => (f.holding s).any fun d => meets s d && passes d.level e.level)
    || decides (f.applying e) e.level

end Filter

end Ingress.Log
