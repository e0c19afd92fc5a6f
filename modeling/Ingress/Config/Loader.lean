import Ingress.Config.Decoding
import Ingress.Config.Override
import Ingress.Config.Validity

/-!
# Loading a configuration

A configuration is put together in steps. A preset or a document replaces all that was there before;
variables of the environment have the last word; and what comes out has to make sense.
-/

namespace Ingress.Config

/-- What a path leads to. -/
inductive DiskEntry
  | file (content : ByteArray)
  | directory

/-- What a program finds around it. -/
structure Surroundings where
  /-- The directory that the program runs in. -/
  place : String
  disk : List (String × DiskEntry)
  environment : Environment

/-- Why a configuration cannot be loaded. -/
inductive LoadError
  | missingFile (path : String)
  | unreadable (path : String)
  | unsupportedFormat (name : String)
  | document (format : Format) (why : Json.Refusal)
  /-- An environment file, with its fault if it could be read at all. -/
  | environmentFile (fault : Option EnvironmentFile.Fault)
  | invalid (why : Invalid)
  | override (why : BadOverride)

/-- The sentence for an error; there is none where another format's rules were broken. -/
def LoadError.message? : LoadError → Option String
  | .missingFile path => some ("no configuration at " ++ path)
  | .unreadable path => some ("cannot read " ++ path)
  | .unsupportedFormat name =>
    some ("unsupported configuration format `" ++ name ++ "` (expected toml or json)")
  | .document _ .malformed => none
  | .document format (.unfit why) => some (why.message format.wording)
  | .environmentFile fault => fault.map fun f => ".env: " ++ f.message
  | .invalid why => some why.message
  | .override why => some why.message

/-- A step of loading. -/
inductive LoadStep
  /-- Something is put on the disk beforehand. -/
  | place (path : String) (entry : DiskEntry)
  | preset (config : Config)
  | document (content format : String)
  | file (path : String)
  /-- A file that need not be there. -/
  | optionalFile (path : String)
  /-- The first word of the variables that count. -/
  | firstWord (word : String)
  | environmentFile (path : String)
  /-- The environment file of the directory that the program runs in, if it has one. -/
  | localEnvironment

/-- What has been loaded so far. -/
structure Loading where
  config : Config
  firstWord : Option String
  surroundings : Surroundings

namespace Loading

/-- Nothing has been loaded. -/
def start (s : Surroundings) : Loading := ⟨.standard, none, s⟩

/-- The names on the way to what a path leads to. A point stays where it is, and two points lead one
up. -/
def names (path : String) : List String :=
  ((Text.pieces '/' path.toList).foldl (fun above piece =>
    if piece = [] ∨ piece = ['.'] then above
    else if piece = ['.', '.'] then above.drop 1
    else String.ofList piece :: above) []).reverse

/-- Whether names lead to a directory: on the way to where the program runs, or on the disk. -/
def isDirectory (way : List String) (l : Loading) : Bool :=
  way.isPrefixOf (names l.surroundings.place) || l.surroundings.disk.any fun (path, entry) =>
    match entry with
    | .directory => way.isPrefixOf (names path)
    | .file _ => way.isPrefixOf (names path).dropLast

/-- Where the pieces of a path lead to, from some place on. Only in a directory one can go on. -/
def walk (l : Loading) (way : List String) : List (List Char) → Option (List String)
  | [] => some way
  | piece :: rest =>
    if !l.isDirectory way then none
    else if piece = [] ∨ piece = ['.'] then l.walk way rest
    else if piece = ['.', '.'] then l.walk way.dropLast rest
    else l.walk (way ++ [String.ofList piece]) rest

/-- What a path leads to. -/
def find? (path : String) (l : Loading) : Option DiskEntry := do
  let way ← l.walk [] (Text.pieces '/' path.toList)
  let (_, entry) ← l.surroundings.disk.find? fun (path, _) => names path = way
  pure entry

/-- Puts something on the disk. -/
def put (path : String) (entry : DiskEntry) (l : Loading) : Loading :=
  { l with surroundings := { l.surroundings with disk := (path, entry) :: l.surroundings.disk } }

/-- What follows the last of some character, if there is one. -/
def afterLast? (mark : Char) (cs : List Char) : Option (List Char × List Char) :=
  match (cs.reverse.span (· ≠ mark)) with
  | (_, []) => none
  | (after, _ :: before) => some (before.reverse, after.reverse)

/-- The ending of a file's name: what follows its last point, if that is not the first character. -/
def ending? (path : String) : Option String :=
  let name := match afterLast? '/' path.toList with
    | some (_, name) => name
    | none => path.toList
  match afterLast? '.' name with
  | some (_ :: _, ending) => some (String.ofList ending)
  | _ => none

/-- Takes over a document. -/
def withDocument (f : Format) (content : String) (l : Loading) : Except LoadError Loading :=
  match f.read content with
  | .ok config => .ok { l with config }
  | .error why => .error (.document f why)

/-- Takes over a file. -/
def withFile (path : String) (l : Loading) : Except LoadError Loading :=
  match l.find? path with
  | some (.file bytes) =>
    match (ending? path).bind Format.ofName? with
    | none => .error (.unsupportedFormat path)
    | some f =>
      match String.fromUTF8? bytes with
      | none => .error (.unreadable path)
      | some content => l.withDocument f content
  | _ => .error (.missingFile path)

/-- Whether a path leads to a file. -/
def isFile (path : String) (l : Loading) : Bool :=
  match l.find? path with
  | some (.file _) => true
  | _ => false

/-- Sets the variables of an environment file. -/
def withVariables (bytes : ByteArray) (l : Loading) : Except LoadError Loading :=
  match EnvironmentFile.apply bytes l.surroundings.environment with
  | .ok environment => .ok { l with surroundings := { l.surroundings with environment } }
  | .error fault => .error (.environmentFile fault)

/-- Carries out a step. -/
def step (l : Loading) : LoadStep → Except LoadError Loading
  | .place path entry => .ok (l.put path entry)
  | .preset config => .ok { l with config }
  | .document content format =>
    match Format.ofName? format with
    | some f => l.withDocument f content
    | none => .error (.unsupportedFormat format)
  | .file path => l.withFile path
  | .optionalFile path => if l.isFile path then l.withFile path else .ok l
  | .firstWord word => .ok { l with firstWord := some (Text.upperAscii word) }
  | .environmentFile path =>
    match l.find? path with
    | some (.file bytes) => l.withVariables bytes
    | _ => .error (.environmentFile none)
  | .localEnvironment =>
    match l.find? (l.surroundings.place ++ "/.env") with
    | some (.file bytes) => l.withVariables bytes
    | _ => .ok l

/-- Carries out steps, up to the first error. -/
def steps (l : Loading) (ss : List LoadStep) : Except LoadError Loading := ss.foldlM step l

/-- The configuration with the variables of the environment. -/
def overridden (l : Loading) : Except LoadError Config :=
  match l.firstWord with
  | none => .ok l.config
  | some word => (overrides word l.surroundings.environment l.config).mapError .override

/-- The configuration with the variables of the environment, if it makes sense. -/
def load (l : Loading) : Except LoadError Config := do
  let config ← l.overridden
  (validate config).mapError .invalid
  pure config

end Loading

end Ingress.Config
