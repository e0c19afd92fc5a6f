import Mathlib.Data.List.Forall2
import Ingress.Json.Reading
import Ingress.Proofs.Json.Scanning

/-!
# Written values are read back

A value whose numbers are all integers of 64 bits is written as a text whose tokens are those of the
value, and the tree that is read from them is the tree of the value, each member of an object in the
place where it was written. Unless it is too deep, the value that is read is the written one with
its members in the order of their names.
-/

namespace Ingress.Json

open Text (Glyph)

mutual

/-- All numbers of the value are integers that fit 64 bits. -/
def IsExact : Json → Prop
  | .number n => n.IsExact
  | .array items => ItemsExact items
  | .object members => MembersExact members
  | _ => True
termination_by structural j => j

/-- All numbers of the items are integers that fit 64 bits. -/
def ItemsExact : List Json → Prop
  | [] => True
  | j :: rest => j.IsExact ∧ ItemsExact rest
termination_by structural js => js

/-- All numbers of the members are integers that fit 64 bits. -/
def MembersExact : List (String × Json) → Prop
  | [] => True
  | (_, j) :: rest => j.IsExact ∧ MembersExact rest
termination_by structural ms => ms

end

mutual

/-- The tokens of a value. -/
def tokens : Json → List Token
  | .null => [.null]
  | .bool b => [.bool b]
  | .number n => [.number (some n)]
  | .string s => [.text (some s)]
  | .array items => .openList :: [.comma].intercalate (itemTokens items) ++ [.closeList]
  | .object members => .openRecord :: [.comma].intercalate (memberTokens members) ++ [.closeRecord]
termination_by structural j => j

/-- The tokens of each item of an array. -/
def itemTokens : List Json → List (List Token)
  | [] => []
  | j :: rest => j.tokens :: itemTokens rest
termination_by structural js => js

/-- The tokens of each member of an object. -/
def memberTokens : List (String × Json) → List (List Token)
  | [] => []
  | (k, j) :: rest => (.text (some k) :: .colon :: j.tokens) :: memberTokens rest
termination_by structural ms => ms

end

mutual

/-- The tree of a value. -/
def Reading.ofJson : Json → Reading
  | .null => .null
  | .bool b => .bool b
  | .number n => .number n
  | .string s => .text s
  | .array items => .list (ofItems items)
  | .object members => .record (ofMembers members)
termination_by structural j => j

/-- The trees of the items of an array. -/
def Reading.ofItems : List Json → List Reading
  | [] => []
  | j :: rest => ofJson j :: ofItems rest
termination_by structural js => js

/-- The trees of the members of an object. -/
def Reading.ofMembers : List (String × Json) → List (Option String × Reading)
  | [] => []
  | (k, j) :: rest => (some k, ofJson j) :: ofMembers rest
termination_by structural ms => ms

end

/-- The text is cut into the tokens, whatever comes after it that cannot be part of a number. -/
def Lexes (text : String) (ts : List Token) : Prop :=
  ∀ gs, EndsNumber gs → Token.all (Text.glyphs text ++ gs) = ts ++ Token.all gs

theorem endsNumber_cons {c : Char} (other : c.isDigit = false ∧ c ≠ '.' ∧ c ≠ 'e' ∧ c ≠ 'E')
    (gs : List Glyph) : EndsNumber (some c :: gs) := by
  rintro _ _ ⟨⟩
  exact other

theorem lexes_separated {texts : List String} {ts : List (List Token)}
    (each : List.Forall₂ Lexes texts ts) :
    Lexes (",".intercalate texts) ([Token.comma].intercalate ts) := by
  induction each with
  | nil => exact fun _ _ => rfl
  | @cons text own _ _ first each ih =>
    cases each with
    | nil =>
      rw [String.intercalate_singleton, List.intercalate_singleton]
      exact first
    | @cons next _ texts _ =>
      -- No number goes on after a comma, so the first text is cut as if nothing followed it.
      intro gs ends
      have comma : Token.all (some ',' :: (Text.glyphs (",".intercalate (next :: texts)) ++ gs)) =
          .comma :: Token.all (Text.glyphs (",".intercalate (next :: texts)) ++ gs) :=
        Token.all_cons rfl rfl
      have split := first _ (endsNumber_cons (c := ',') (by decide)
        (Text.glyphs (",".intercalate (next :: texts)) ++ gs))
      rw [comma, ih gs ends] at split
      simpa [Text.glyphs, String.intercalate_cons_cons, List.intercalate_cons_cons] using split

/-- A text between the marks of a container. -/
theorem Lexes.enclosed {opening text closing : String} {opener closer : Char}
    {first last : Token} {ts : List Token} (inner : Lexes text ts)
    (opens : opening.toList = [opener] ∧
      ∀ gs, Token.all (some opener :: gs) = first :: Token.all gs)
    (closes : closing.toList = [closer] ∧
      ∀ gs, Token.all (some closer :: gs) = last :: Token.all gs)
    (other : closer.isDigit = false ∧ closer ≠ '.' ∧ closer ≠ 'e' ∧ closer ≠ 'E') :
    Lexes (opening ++ text ++ closing) (first :: ts ++ [last]) := by
  intro gs _
  have lexed := inner _ (endsNumber_cons other gs)
  rw [closes.2] at lexed
  have whole := (opens.2 _).trans (congrArg (first :: ·) lexed)
  simpa [Text.glyphs, opens.1, closes.1] using whole

/-- The text of a member is its name, a colon and its value. -/
theorem Lexes.member {text : String} {ts : List Token} (name : String) (value : Lexes text ts) :
    Lexes (quote name ++ ":" ++ text) (.text (some name) :: .colon :: ts) := by
  intro gs ends
  have colon : Token.all (some ':' :: (Text.glyphs text ++ gs)) =
      .colon :: Token.all (Text.glyphs text ++ gs) := Token.all_cons rfl rfl
  have lexed := Token.all_quote name (some ':' :: (Text.glyphs text ++ gs))
  rw [colon, value gs ends] at lexed
  simpa [Text.glyphs] using lexed

mutual

/-- The text of a value is cut into the tokens of the value. -/
theorem lexes_write : ∀ j : Json, j.IsExact → Lexes j.write j.tokens
  | .null, _ => fun gs _ => Token.all_cons (c := 'n') rfl rfl
  | .bool true, _ => fun gs _ => Token.all_cons (c := 't') rfl rfl
  | .bool false, _ => fun gs _ => Token.all_cons (c := 'f') rfl rfl
  | .number _, exact => fun _ ends => Token.all_number exact ends
  | .string s, _ => fun gs _ => Token.all_quote s gs
  | .array items, exact =>
    (lexes_separated (lexes_items items exact)).enclosed
      ⟨rfl, fun _ => Token.all_cons rfl rfl⟩ ⟨rfl, fun _ => Token.all_cons rfl rfl⟩ (by decide)
  | .object members, exact =>
    (lexes_separated (lexes_members members exact)).enclosed
      ⟨rfl, fun _ => Token.all_cons rfl rfl⟩ ⟨rfl, fun _ => Token.all_cons rfl rfl⟩ (by decide)

theorem lexes_items : ∀ items : List Json, ItemsExact items →
    List.Forall₂ Lexes (writeItems items) (itemTokens items)
  | [], _ => .nil
  | j :: rest, ⟨first, others⟩ => .cons (lexes_write j first) (lexes_items rest others)

theorem lexes_members : ∀ members : List (String × Json), MembersExact members →
    List.Forall₂ Lexes (writeMembers members) (memberTokens members)
  | [], _ => .nil
  | (k, j) :: rest, ⟨first, others⟩ =>
    .cons ((lexes_write j first).member k) (lexes_members rest others)

end

namespace Reading

/-- Where a value is due, the tokens are read as the tree, and it is put into the innermost
container. -/
def Builds (ts : List Token) (r : Reading) : Prop :=
  ∀ frames expected rest, expected = .value ∨ expected = .firstItem →
    build frames expected (ts ++ rest) = place frames r rest

/-- Where a name is due, the tokens are read as the member of the innermost record. -/
def BuildsMember (ts : List Token) (member : Option String × Reading) : Prop :=
  ∀ members last outer expected rest, expected = .name ∨ expected = .firstName →
    build (.record members last :: outer) expected (ts ++ rest) =
      build (.record (member :: members) member.1 :: outer) .separator rest

theorem builds_token {t : Token} {r : Reading} (value : ofToken? t = some r) : Builds [t] r := by
  intro frames expected rest due
  have same : buildValue frames expected t rest = place frames r rest := by
    cases t <;> simp_all [buildValue, ofToken?]
  rcases due with rfl | rfl
  · rw [List.singleton_append, build, same]
  · rw [List.singleton_append, build, same]
    rintro _ _ rfl
    simp [ofToken?] at value

theorem Builds.member {ts : List Token} {r : Reading} (value : Builds ts r) (name : String) :
    BuildsMember (.text (some name) :: .colon :: ts) (some name, r) := by
  intro members last outer expected rest due
  have read : build (.record members last :: outer) expected
      (.text (some name) :: .colon :: (ts ++ rest)) =
        build (.record members (some name) :: outer) .colon (.colon :: (ts ++ rest)) := by
    rcases due with rfl | rfl <;> rw [build]
  rw [List.cons_append, List.cons_append, read, build, value _ _ _ (.inl rfl), place]

section Containers

variable {ts : List (List Token)} {items : List Reading}
  {members : List (Option String × Reading)}

/-- The items of a list are read one after the other up to its end; `before` are those that have
been read, the last one first. -/
theorem build_items (each : List.Forall₂ Builds ts items) (nonempty : items ≠ [])
    (before : List Reading) (outer : List Frame) (expected : Expected)
    (due : expected = .value ∨ expected = .firstItem) (rest : List Token) :
    build (.list before :: outer) expected ([.comma].intercalate ts ++ .closeList :: rest) =
      place outer (.list (before.reverse ++ items)) rest := by
  induction each generalizing before expected with
  | nil => exact absurd rfl nonempty
  | cons first each ih =>
    cases each with
    | nil =>
      rw [List.intercalate_singleton, first _ _ _ due, place, build, List.reverse_cons]
    | cons next others =>
      rw [List.intercalate_cons_cons, List.append_assoc, List.append_assoc, first _ _ _ due, place,
        List.singleton_append, build, ih (List.cons_ne_nil _ _) _ _ (.inl rfl)]
      simp

/-- The members of a record are read one after the other up to its end. -/
theorem build_members (each : List.Forall₂ BuildsMember ts members) (nonempty : members ≠ [])
    (before : List (Option String × Reading)) (last : Option String) (outer : List Frame)
    (expected : Expected) (due : expected = .name ∨ expected = .firstName) (rest : List Token) :
    build (.record before last :: outer) expected
        ([.comma].intercalate ts ++ .closeRecord :: rest) =
      place outer (.record (before.reverse ++ members)) rest := by
  induction each generalizing before last expected with
  | nil => exact absurd rfl nonempty
  | cons first each ih =>
    cases each with
    | nil =>
      rw [List.intercalate_singleton, first _ _ _ _ _ due, build, List.reverse_cons]
    | cons next others =>
      rw [List.intercalate_cons_cons, List.append_assoc, List.append_assoc, first _ _ _ _ _ due,
        List.singleton_append, build, ih (List.cons_ne_nil _ _) _ _ _ (.inl rfl)]
      simp

theorem builds_list (each : List.Forall₂ Builds ts items) :
    Builds (.openList :: [.comma].intercalate ts ++ [.closeList]) (.list items) := by
  intro frames expected rest due
  have opened : build frames expected
      (.openList :: ([.comma].intercalate ts ++ .closeList :: rest)) =
        build (.list [] :: frames) .firstItem ([.comma].intercalate ts ++ .closeList :: rest) := by
    rcases due with rfl | rfl <;> simp [build, buildValue]
  rw [List.append_assoc, List.cons_append, List.singleton_append, opened]
  cases each with
  | nil => rw [List.intercalate_nil, List.nil_append, build, List.reverse_nil]
  | cons first others =>
    exact build_items (.cons first others) (List.cons_ne_nil _ _) _ _ _ (.inr rfl) _

theorem builds_record (each : List.Forall₂ BuildsMember ts members) :
    Builds (.openRecord :: [.comma].intercalate ts ++ [.closeRecord]) (.record members) := by
  intro frames expected rest due
  have opened : build frames expected
      (.openRecord :: ([.comma].intercalate ts ++ .closeRecord :: rest)) =
        build (.record [] none :: frames) .firstName
          ([.comma].intercalate ts ++ .closeRecord :: rest) := by
    rcases due with rfl | rfl <;> simp [build, buildValue]
  rw [List.append_assoc, List.cons_append, List.singleton_append, opened]
  cases each with
  | nil => rw [List.intercalate_nil, List.nil_append, build, List.reverse_nil]
  | cons first others =>
    exact build_members (.cons first others) (List.cons_ne_nil _ _) _ _ _ _ (.inr rfl) _

end Containers

mutual

/-- The tokens of a value are read as the tree of the value. -/
theorem builds_ofJson : ∀ j : Json, Builds j.tokens (ofJson j)
  | .null | .bool _ | .number _ | .string _ => builds_token rfl
  | .array items => builds_list (builds_ofItems items)
  | .object members => builds_record (builds_ofMembers members)

theorem builds_ofItems : ∀ items : List Json, List.Forall₂ Builds (itemTokens items) (ofItems items)
  | [] => .nil
  | j :: rest => .cons (builds_ofJson j) (builds_ofItems rest)

theorem builds_ofMembers : ∀ members : List (String × Json),
    List.Forall₂ BuildsMember (memberTokens members) (ofMembers members)
  | [] => .nil
  | (k, j) :: rest => .cons ((builds_ofJson j).member k) (builds_ofMembers rest)

end

/-- What is written is read as the tree of the value, and nothing is left. -/
theorem ofGlyphs_write {j : Json} (exact : j.IsExact) :
    ofGlyphs (Text.glyphs j.write) = (ofJson j, true) := by
  have lexed := lexes_write j exact [] fun _ _ same => nomatch same
  have built := builds_ofJson j [] .value [] (.inl rfl)
  rw [List.append_nil, Token.all] at lexed
  rw [ofGlyphs, lexed, built, place, List.isEmpty_nil]

end Reading

mutual

/-- Containers stand at most so deep in one another. -/
def Within : Nat → Json → Prop
  | 0, .array _ | 0, .object _ => False
  | depth + 1, .array items => ItemsWithin depth items
  | depth + 1, .object members => MembersWithin depth members
  | _, _ => True
termination_by structural _ j => j

/-- All items are at most so deep. -/
def ItemsWithin : Nat → List Json → Prop
  | _, [] => True
  | depth, j :: rest => j.Within depth ∧ ItemsWithin depth rest
termination_by structural _ js => js

/-- The values of all members are at most so deep. -/
def MembersWithin : Nat → List (String × Json) → Prop
  | _, [] => True
  | depth, (_, j) :: rest => j.Within depth ∧ MembersWithin depth rest
termination_by structural _ ms => ms

end

mutual

/-- The value with the members of its objects in the order of their names. -/
def ordered : Json → Json
  | .array items => .array (orderedItems items)
  | .object members => .object (Dictionary.ofPairs (orderedMembers members))
  | j => j
termination_by structural j => j

/-- The items with their members in order. -/
def orderedItems : List Json → List Json
  | [] => []
  | j :: rest => j.ordered :: orderedItems rest
termination_by structural js => js

/-- The members as they stand, their values with their own members in order. -/
def orderedMembers : List (String × Json) → List (String × Json)
  | [] => []
  | (k, j) :: rest => (k, j.ordered) :: orderedMembers rest
termination_by structural ms => ms

end

section Texts

/-! Nothing is to be asked of a list of texts. -/

theorem itemsExact_strings (texts : List String) : ItemsExact (texts.map .string) := by
  induction texts with
  | nil => trivial
  | cons _ _ ih => exact ⟨trivial, ih⟩

theorem itemsWithin_strings (depth : Nat) (texts : List String) :
    ItemsWithin depth (texts.map .string) := by
  induction texts with
  | nil => trivial
  | cons text texts ih => exact ⟨by cases depth <;> trivial, ih⟩

theorem orderedItems_strings (texts : List String) :
    orderedItems (texts.map .string) = texts.map .string := by
  induction texts with
  | nil => rfl
  | cons text _ ih => exact congrArg (Json.string text :: ·) ih

end Texts

namespace Reading

mutual

/-- The tree of a value stands for the value with its members in order. -/
theorem toJson?_ofJson : ∀ (depth : Nat) (j : Json), j.Within depth →
    toJson? depth (ofJson j) = some j.ordered
  | 0, .null, _ | 0, .bool _, _ | 0, .number _, _ | 0, .string _, _ => rfl
  | _ + 1, .null, _ | _ + 1, .bool _, _ | _ + 1, .number _, _ | _ + 1, .string _, _ => rfl
  | depth + 1, .array items, within => by
    rw [ofJson, toJson?, itemsToJson?_ofItems depth items within]
    rfl
  | depth + 1, .object members, within => by
    rw [ofJson, toJson?, membersToJson?_ofMembers depth members within]
    rfl

theorem itemsToJson?_ofItems : ∀ (depth : Nat) (items : List Json), ItemsWithin depth items →
    itemsToJson? depth (ofItems items) = some (orderedItems items)
  | _, [], _ => rfl
  | depth, j :: rest, ⟨first, others⟩ => by
    rw [ofItems, itemsToJson?, toJson?_ofJson depth j first, itemsToJson?_ofItems depth rest others]
    rfl

theorem membersToJson?_ofMembers : ∀ (depth : Nat) (members : List (String × Json)),
    MembersWithin depth members →
    membersToJson? depth (ofMembers members) = some (orderedMembers members)
  | _, [], _ => rfl
  | depth, (k, j) :: rest, ⟨first, others⟩ => by
    rw [ofMembers, membersToJson?, toJson?_ofJson depth j first,
      membersToJson?_ofMembers depth rest others]
    rfl

end

end Reading

/-- A text is read from its bytes as it stands. -/
theorem glyphsOfBytes_toUTF8 (s : String) : Text.glyphsOfBytes s.toUTF8 = Text.glyphs s := by
  have read : String.fromUTF8? s.toUTF8 = some s := dif_pos s.isValidUTF8
  rw [Text.glyphsOfBytes, read]

/-- The value that is read from what is written is the written one with its members in order. -/
theorem ofBytes?_write {j : Json} (exact : j.IsExact) (within : j.Within Reading.maxDepth) :
    ofBytes? j.write.toUTF8 = some j.ordered := by
  rw [ofBytes?, ofGlyphs?, glyphsOfBytes_toUTF8, Reading.ofGlyphs_write exact]
  exact Reading.toJson?_ofJson _ j within

end Ingress.Json
