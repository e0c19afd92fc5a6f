import Ingress.Config.Loader
import Ingress.Proofs.Config.Documents

/-!
# Which layer counts

A step of loading looks at what the program finds around it and never at the configuration so far or
at the first word that was chosen. So the last preset, document or file that is there makes the
configuration, the last first word chooses the variables, and neither gets in the way of the other.
-/

namespace Ingress.Config

open Fallible

namespace LoadStep

/-- The step puts something on the disk, which is not the part of a program. -/
def isPlacing : LoadStep → Bool
  | .place _ _ => true
  | _ => false

/-- The step is there to bring a configuration. -/
def isLayer : LoadStep → Bool
  | .preset _ | .document _ _ | .file _ | .optionalFile _ => true
  | _ => false

/-- The first word that a step chooses. -/
def word? : LoadStep → Option String
  | .firstWord word => some word
  | _ => none

/-- The step chooses a first word. -/
def isWord (t : LoadStep) : Bool := t.word?.isSome

theorem isWord_iff {t : LoadStep} : t.isWord = true ↔ ∃ word, t = .firstWord word := by
  cases t <;> simp [isWord, word?]

/-- The step is a preset, a document or a file that is there. -/
def replaces (s : Surroundings) : LoadStep → Bool
  | .preset _ | .document _ _ => true
  | .file path | .optionalFile path => (Loading.start s).isFile path
  | _ => false

/-- The configuration is the one that a step brings by itself. -/
def Brings (s : Surroundings) (c : Config) : LoadStep → Prop
  | .preset config => c = config
  | .document content format => ∃ f, Format.ofName? format = some f ∧ f.Tells content c
  | .file path | .optionalFile path => ∃ bytes f content,
    (Loading.start s).find? path = some (.file bytes) ∧
      (Loading.ending? path).bind Format.ofName? = some f ∧
      String.fromUTF8? bytes = some content ∧ f.Tells content c
  | _ => False

/-- A step brings one configuration at most. -/
theorem Brings.unique {s : Surroundings} {c c' : Config} {t : LoadStep} (brings : t.Brings s c)
    (brings' : t.Brings s c') : c = c' := by
  cases t with
  | preset config => exact brings.trans brings'.symm
  | document content format =>
    obtain ⟨f, named, told⟩ := brings
    obtain ⟨f', named', told'⟩ := brings'
    cases named.symm.trans named'
    exact told.unique told'
  | file path | optionalFile path =>
    obtain ⟨bytes, f, content, found, ending, text, told⟩ := brings
    obtain ⟨bytes', f', content', found', ending', text', told'⟩ := brings'
    cases found.symm.trans found'
    cases ending.symm.trans ending'
    cases text.symm.trans text'
    exact told.unique told'
  | place | firstWord | environmentFile | localEnvironment => cases brings

end LoadStep

namespace Loading

variable {l l' : Loading} {t : LoadStep} {ss : List LoadStep}

/-- The same paths lead to the same things. -/
structure SameDisk (l l' : Loading) : Prop where
  place : l.surroundings.place = l'.surroundings.place
  disk : l.surroundings.disk = l'.surroundings.disk

theorem SameDisk.refl (l : Loading) : l.SameDisk l := ⟨rfl, rfl⟩

theorem SameDisk.trans {l'' : Loading} (same : l.SameDisk l') (same' : l'.SameDisk l'') :
    l.SameDisk l'' :=
  ⟨same.place.trans same'.place, same.disk.trans same'.disk⟩

theorem SameDisk.walk (same : l.SameDisk l') (way : List String) (pieces : List (List Char)) :
    l.walk way pieces = l'.walk way pieces := by
  have directory (way : List String) : l.isDirectory way = l'.isDirectory way := by
    rw [isDirectory, isDirectory, same.place, same.disk]
  induction pieces generalizing way with
  | nil => rfl
  | cons piece rest ih => simp only [Loading.walk, directory, ih]

theorem SameDisk.find? (same : l.SameDisk l') (path : String) : l.find? path = l'.find? path := by
  rw [Loading.find?, Loading.find?, same.walk, same.disk]

theorem SameDisk.isFile (same : l.SameDisk l') (path : String) :
    l.isFile path = l'.isFile path := by
  rw [Loading.isFile, Loading.isFile, same.find?]

theorem SameDisk.start (same : l.SameDisk l') :
    (Loading.start l.surroundings).SameDisk (.start l'.surroundings) :=
  ⟨same.place, same.disk⟩

theorem SameDisk.replaces (same : l.SameDisk l') (t : LoadStep) :
    t.replaces l.surroundings = t.replaces l'.surroundings := by
  cases t <;> simp only [LoadStep.replaces, same.start.isFile]

theorem SameDisk.brings (same : l.SameDisk l') (c : Config) (t : LoadStep) :
    t.Brings l.surroundings c ↔ t.Brings l'.surroundings c := by
  cases t <;> simp only [LoadStep.Brings, same.start.find?]

/-- The disk is that of the surroundings. -/
theorem sameDisk_start (l : Loading) : (start l.surroundings).SameDisk l := ⟨rfl, rfl⟩

theorem withDocument_eq_ok {f : Format} {content : String}
    (done : l.withDocument f content = .ok l') :
    ∃ c, f.Tells content c ∧ l' = { l with config := c } := by
  unfold withDocument at done
  split at done
  · next c read =>
    cases done
    exact ⟨c, Format.tells_of_read read, rfl⟩
  · cases done

theorem withFile_eq_ok {path : String} (done : l.withFile path = .ok l') :
    l.isFile path = true ∧
      ∃ c, (LoadStep.file path).Brings l.surroundings c ∧ l' = { l with config := c } := by
  unfold withFile at done
  split at done
  · next bytes found =>
    split at done
    · cases done
    · next f ending =>
      split at done
      · cases done
      · next content text =>
        obtain ⟨c, told, rfl⟩ := withDocument_eq_ok done
        refine ⟨?_, c, ⟨bytes, f, content, ?_, ending, text, told⟩, rfl⟩
        · rw [isFile, found]
        · rw [(sameDisk_start l).find?, found]
  · cases done

theorem withVariables_eq_ok {bytes : ByteArray} (done : l.withVariables bytes = .ok l') :
    ∃ environment, l' = { l with surroundings := { l.surroundings with environment } } := by
  unfold withVariables at done
  split at done
  · next environment _ =>
    cases done
    exact ⟨environment, rfl⟩
  · cases done

/-- What a step can do: it brings a configuration, or it chooses a first word, or it sets variables;
and the rest stays as it is. -/
theorem step_cases (asked : t.isPlacing = false) (done : l.step t = .ok l') :
    (t.replaces l.surroundings = true ∧ t.word? = none ∧
        ∃ c, t.Brings l.surroundings c ∧ l' = { l with config := c }) ∨
      (t.replaces l.surroundings = false ∧
        ∃ word, t = .firstWord word ∧ l' = { l with firstWord := some (Text.upperAscii word) }) ∨
      (t.replaces l.surroundings = false ∧ t.word? = none ∧ ∃ environment,
        l' = { l with surroundings := { l.surroundings with environment } }) := by
  cases t with
  | place path entry => cases asked
  | preset config =>
    cases done
    exact .inl ⟨rfl, rfl, config, rfl, rfl⟩
  | document content format =>
    rw [step] at done
    split at done
    · next f named =>
      obtain ⟨c, told, rfl⟩ := withDocument_eq_ok done
      exact .inl ⟨rfl, rfl, c, ⟨f, named, told⟩, rfl⟩
    · cases done
  | file path =>
    obtain ⟨present, c, brings, rfl⟩ := withFile_eq_ok done
    refine .inl ⟨?_, rfl, c, brings, rfl⟩
    rw [LoadStep.replaces, (sameDisk_start l).isFile, present]
  | optionalFile path =>
    rw [step] at done
    split at done
    · next present =>
      obtain ⟨-, c, brings, rfl⟩ := withFile_eq_ok done
      refine .inl ⟨?_, rfl, c, brings, rfl⟩
      rw [LoadStep.replaces, (sameDisk_start l).isFile, present]
    · next absent =>
      cases done
      refine .inr (.inr ⟨?_, rfl, l.surroundings.environment, rfl⟩)
      rw [LoadStep.replaces, (sameDisk_start l).isFile]
      exact Bool.eq_false_iff.2 absent
  | firstWord word =>
    cases done
    exact .inr (.inl ⟨rfl, word, rfl, rfl⟩)
  | environmentFile path =>
    rw [step] at done
    split at done
    · exact .inr (.inr ⟨rfl, rfl, withVariables_eq_ok done⟩)
    · cases done
  | localEnvironment =>
    rw [step] at done
    split at done
    · exact .inr (.inr ⟨rfl, rfl, withVariables_eq_ok done⟩)
    · cases done
      exact .inr (.inr ⟨rfl, rfl, l.surroundings.environment, rfl⟩)

theorem sameDisk_of_step (asked : t.isPlacing = false) (done : l.step t = .ok l') :
    l.SameDisk l' := by
  obtain ⟨-, -, c, -, rfl⟩ | ⟨-, word, -, rfl⟩ | ⟨-, -, environment, rfl⟩ := step_cases asked done
  · exact ⟨rfl, rfl⟩
  · exact ⟨rfl, rfl⟩
  · exact ⟨rfl, rfl⟩

section

variable (c : Config) (w : Option String) (s : Surroundings)

theorem withDocument_eq (f : Format) (content : String) : withDocument f content ⟨c, w, s⟩ =
    ((start s).withDocument f content).map fun m => ⟨m.config, w, m.surroundings⟩ := by
  unfold withDocument
  cases f.read content <;> rfl

theorem withFile_eq (path : String) : withFile path ⟨c, w, s⟩ =
    ((start s).withFile path).map fun m => ⟨m.config, w, m.surroundings⟩ := by
  have same : (⟨c, w, s⟩ : Loading).SameDisk (start s) := ⟨rfl, rfl⟩
  unfold withFile
  rw [same.find?]
  split
  · split
    · rfl
    · split
      · rfl
      · exact withDocument_eq c w s _ _
  · rfl

theorem withVariables_eq (bytes : ByteArray) : withVariables bytes ⟨c, w, s⟩ =
    ((start s).withVariables bytes).map fun m => ⟨c, w, m.surroundings⟩ := by
  unfold withVariables
  rw [show (start s).surroundings = s from rfl]
  cases EnvironmentFile.apply bytes s.environment <;> rfl

/-- What a step does depends on the surroundings alone. The configuration before it is lost if the
step brings one, and the first word if it chooses one; otherwise they stay. -/
theorem step_eq (t : LoadStep) : step ⟨c, w, s⟩ t = ((start s).step t).map fun m =>
    ⟨if t.replaces s then m.config else c, if t.isWord then m.firstWord else w,
      m.surroundings⟩ := by
  have same : (⟨c, w, s⟩ : Loading).SameDisk (start s) := ⟨rfl, rfl⟩
  cases t with
  | place path entry => rfl
  | preset config => rfl
  | document content format =>
    rw [step, step]
    cases Format.ofName? format with
    | none => rfl
    | some f => exact withDocument_eq c w s f content
  | file path =>
    rw [step, step, withFile_eq]
    cases done : (start s).withFile path with
    | error => rfl
    | ok m =>
      have present := (withFile_eq_ok done).1
      simp [Except.map, LoadStep.replaces, LoadStep.isWord, LoadStep.word?, present]
  | optionalFile path =>
    rw [step, step, same.isFile, withFile_eq]
    by_cases present : (start s).isFile path = true
    · simp [LoadStep.replaces, LoadStep.isWord, LoadStep.word?, present]
    · simp only [LoadStep.replaces, LoadStep.isWord, present]
      rfl
  | firstWord word => rfl
  | environmentFile path =>
    rw [step, step, same.find?]
    split
    · exact withVariables_eq c w s _
    · rfl
  | localEnvironment =>
    rw [step, step, same.find?, same.place]
    split
    · exact withVariables_eq c w s _
    · rfl

end

/-! ### Runs -/

theorem steps_cons (l : Loading) (t : LoadStep) (ss : List LoadStep) :
    l.steps (t :: ss) = l.step t >>= (·.steps ss) := rfl

theorem steps_append (l : Loading) (ss more : List LoadStep) :
    l.steps (ss ++ more) = l.steps ss >>= (·.steps more) :=
  List.foldlM_append

/-- A run comes to each of its steps and goes on from there. -/
theorem steps_split {before after : List LoadStep}
    (done : l.steps (before ++ t :: after) = .ok l') :
    ∃ m m', l.steps before = .ok m ∧ m.step t = .ok m' ∧ m'.steps after = .ok l' := by
  rw [steps_append, bind_eq_ok_iff] at done
  obtain ⟨m, reached, done⟩ := done
  rw [steps_cons, bind_eq_ok_iff] at done
  obtain ⟨m', stepped, done⟩ := done
  exact ⟨m, m', reached, stepped, done⟩

/-- The paths of a program lead to the same things throughout. -/
theorem sameDisk_of_steps (asked : ∀ t ∈ ss, t.isPlacing = false) (done : l.steps ss = .ok l') :
    l.SameDisk l' :=
  foldlM_induction (motive := l.SameDisk) (.refl l)
    (fun t among _ _ same stepped => same.trans (sameDisk_of_step (asked t among) stepped)) done

/-- Without a layer the configuration stays. -/
theorem config_of_steps (asked : ∀ t ∈ ss, t.isPlacing = false)
    (none : ∀ t ∈ ss, t.replaces l.surroundings = false) (done : l.steps ss = .ok l') :
    l'.config = l.config := by
  have kept : l.SameDisk l' ∧ l'.config = l.config := by
    refine foldlM_induction (motive := fun m => l.SameDisk m ∧ m.config = l.config)
      ⟨.refl l, rfl⟩ ?_ done
    rintro t among m m' ⟨same, kept⟩ stepped
    refine ⟨same.trans (sameDisk_of_step (asked t among) stepped), ?_⟩
    have stays := none t among
    rw [same.replaces] at stays
    obtain ⟨brings, -⟩ | ⟨-, word, -, rfl⟩ | ⟨-, -, environment, rfl⟩ :=
      step_cases (asked t among) stepped
    · rw [stays] at brings
      cases brings
    · exact kept
    · exact kept
  exact kept.2

/-- The last layer brings the configuration. -/
theorem brings_of_steps {before after : List LoadStep}
    (asked : ∀ u ∈ before ++ t :: after, u.isPlacing = false)
    (layer : t.replaces l.surroundings = true)
    (last : ∀ u ∈ after, u.replaces l.surroundings = false)
    (done : l.steps (before ++ t :: after) = .ok l') : t.Brings l.surroundings l'.config := by
  obtain ⟨earlier, asked⟩ := List.forall_mem_append.1 asked
  obtain ⟨own, later⟩ := List.forall_mem_cons.1 asked
  obtain ⟨m, m', reached, stepped, done⟩ := steps_split done
  have same := sameDisk_of_steps earlier reached
  have same' := same.trans (sameDisk_of_step own stepped)
  rw [same.replaces] at layer
  have kept := config_of_steps later (fun u among => same'.replaces u ▸ last u among) done
  obtain ⟨-, -, c, brings, rfl⟩ | ⟨stays, -⟩ | ⟨stays, -⟩ := step_cases own stepped
  · rw [kept, same.brings]
    exact brings
  · rw [layer] at stays
    cases stays
  · rw [layer] at stays
    cases stays

theorem firstWord_of_step (done : l.step t = .ok l') :
    l'.firstWord = (t.word?.map Text.upperAscii).or l.firstWord := by
  obtain ⟨c, w, s⟩ := l
  cases t with
  | firstWord word =>
    cases done
    rfl
  | _ =>
    rw [step_eq] at done
    obtain ⟨m, -, rfl⟩ := map_eq_ok_iff.1 done
    rfl

/-- The last first word is the one that counts. -/
theorem firstWord_of_steps (done : l.steps ss = .ok l') :
    l'.firstWord = ((ss.filterMap LoadStep.word?).getLast?.map Text.upperAscii).or l.firstWord := by
  induction ss generalizing l with
  | nil =>
    cases done
    rfl
  | cons t ss ih =>
    rw [steps_cons, bind_eq_ok_iff] at done
    obtain ⟨m, stepped, done⟩ := done
    rw [ih done, firstWord_of_step stepped, List.filterMap_cons]
    cases t.word? with
    | none => rfl
    | some word =>
      simp only [List.getLast?_cons]
      cases (ss.filterMap LoadStep.word?).getLast? <;> rfl

/-- Where a layer follows, it does not matter which configuration was there before. -/
theorem steps_of_replaces (asked : ∀ t ∈ ss, t.isPlacing = false) {c c' : Config}
    {w : Option String} {s : Surroundings} (layer : ∃ t ∈ ss, t.replaces s = true) :
    steps ⟨c, w, s⟩ ss = steps ⟨c', w, s⟩ ss := by
  induction ss generalizing c c' w s with
  | nil =>
    obtain ⟨t, among, -⟩ := layer
    cases among
  | cons t ss ih =>
    obtain ⟨first, others⟩ := List.forall_mem_cons.1 asked
    rw [steps_cons, steps_cons, step_eq, step_eq c']
    -- Both configurations are carried along up to the first layer, which drops them.
    cases stepped : (start s).step t with
    | error => rfl
    | ok m =>
      by_cases here : t.replaces s = true
      · simp only [here]
        rfl
      · have same := sameDisk_of_step first stepped
        have later : ∃ u ∈ ss, u.replaces m.surroundings = true := by
          obtain ⟨u, among, layer⟩ := layer
          rcases List.mem_cons.1 among with rfl | among
          · exact absurd layer here
          · exact ⟨u, among, same.replaces u ▸ layer⟩
        simp only [here]
        exact ih others later

theorem step_layer (layer : t.isLayer = true) (done : l.step t = .ok l') :
    ∃ c, l' = { l with config := c } := by
  cases t with
  | preset config =>
    cases done
    exact ⟨config, rfl⟩
  | document content format =>
    rw [step] at done
    split at done
    · obtain ⟨c, -, same⟩ := withDocument_eq_ok done
      exact ⟨c, same⟩
    · cases done
  | file path =>
    obtain ⟨-, c, -, same⟩ := withFile_eq_ok done
    exact ⟨c, same⟩
  | optionalFile path =>
    rw [step] at done
    split at done
    · obtain ⟨-, c, -, same⟩ := withFile_eq_ok done
      exact ⟨c, same⟩
    · cases done
      exact ⟨l.config, rfl⟩
  | place | firstWord | environmentFile | localEnvironment => cases layer

/-- A layer that another follows may be left out. -/
theorem steps_without {before after : List LoadStep}
    (asked : ∀ u ∈ before ++ t :: after, u.isPlacing = false) (layer : t.isLayer = true)
    (covered : ∃ u ∈ after, u.replaces l.surroundings = true)
    (done : l.steps (before ++ t :: after) = .ok l') : l.steps (before ++ after) = .ok l' := by
  obtain ⟨earlier, asked⟩ := List.forall_mem_append.1 asked
  obtain ⟨-, later⟩ := List.forall_mem_cons.1 asked
  obtain ⟨m, m', reached, stepped, done⟩ := steps_split done
  obtain ⟨c, rfl⟩ := step_layer layer stepped
  have same := sameDisk_of_steps earlier reached
  have covered : ∃ u ∈ after, u.replaces m.surroundings = true := by
    obtain ⟨u, among, replaced⟩ := covered
    exact ⟨u, among, same.replaces u ▸ replaced⟩
  rw [steps_append, reached, ← done]
  exact steps_of_replaces later covered

/-- Steps that choose no first word do the same after any. -/
theorem steps_withWord (free : ∀ t ∈ ss, t.isWord = false) (c : Config) (w : Option String)
    (s : Surroundings) :
    steps ⟨c, w, s⟩ ss = (steps ⟨c, none, s⟩ ss).map fun m => ⟨m.config, w, m.surroundings⟩ := by
  induction ss generalizing c s with
  | nil => rfl
  | cons t ss ih =>
    obtain ⟨first, others⟩ := List.forall_mem_cons.1 free
    rw [steps_cons, steps_cons, step_eq, step_eq c none]
    cases (start s).step t with
    | error => rfl
    | ok m =>
      simp only [first]
      exact ih others _ _

/-- The steps that choose first words may as well come last, in their order. -/
theorem steps_eq_filter (l : Loading) (ss : List LoadStep) :
    l.steps ss = l.steps (ss.filter fun t => !t.isWord) >>= (·.steps (ss.filter (·.isWord))) := by
  induction ss generalizing l with
  | nil => rfl
  | cons t ss ih =>
    by_cases word : t.isWord = true
    · -- The word is carried past the steps that choose none, which do the same after it.
      obtain ⟨text, rfl⟩ := LoadStep.isWord_iff.1 word
      obtain ⟨c, w, s⟩ := l
      have free : ∀ u ∈ ss.filter (fun u => !u.isWord), u.isWord = false := by simp
      have chosen : steps ⟨c, w, s⟩ (.firstWord text :: ss) =
          steps ⟨c, some (Text.upperAscii text), s⟩ ss := rfl
      rw [List.filter_cons_of_neg (by simp [word]), List.filter_cons_of_pos word, chosen, ih,
        steps_withWord free c (some _), steps_withWord free c w]
      cases steps ⟨c, none, s⟩ (ss.filter fun u => !u.isWord) <;> rfl
    · rw [List.filter_cons_of_pos (by simpa using word), List.filter_cons_of_neg word, steps_cons,
        steps_cons, bind_assoc]
      cases l.step t with
      | error => rfl
      | ok m => exact ih m

/-- What is loaded has the variables under the last first word, and it makes sense. -/
theorem load_eq_ok_iff {c : Config} :
    l.load = .ok c ↔ l.overridden = .ok c ∧ validate c = .ok () := by
  rw [load, bind_eq_ok_iff]
  constructor
  · rintro ⟨c', changed, done⟩
    obtain ⟨_, sound, same⟩ := bind_eq_ok_iff.1 done
    cases same
    exact ⟨changed, mapError_eq_ok_iff.1 sound⟩
  · rintro ⟨changed, sound⟩
    refine ⟨c, changed, bind_eq_ok_iff.2 ⟨(), ?_, rfl⟩⟩
    exact mapError_eq_ok_iff.2 sound

/-- Where the variables lead to a configuration that makes no sense its fault is told. -/
theorem load_eq_error {why : Invalid} {c : Config} (changed : l.overridden = .ok c)
    (refused : validate c = .error why) : l.load = .error (.invalid why) := by
  rw [load, changed]
  change ((validate c).mapError LoadError.invalid >>= fun _ => pure c) = _
  rw [refused]
  rfl

/-- The last layer makes the configuration, whatever came before it: a preset makes it as it is, and
a document says what each setting is, or else it is the standard one. The variables under the last
first word change it afterwards, and nothing is loaded that makes no sense. A layer that another
follows may be left out, and first words may be chosen at any point among the other steps: what is
loaded is the same, and so is the error where nothing is. -/
theorem last_layer_counts {s : Surroundings} {ss : List LoadStep} {l : Loading}
    (asked : ∀ t ∈ ss, t.isPlacing = false) (done : (start s).steps ss = .ok l) :
    (∀ before t after, ss = before ++ t :: after → t.replaces s = true →
      (∀ u ∈ after, u.replaces s = false) → ∀ c, t.Brings s c ↔ c = l.config) ∧
    ((∀ t ∈ ss, t.replaces s = false) → l.config = standard) ∧
    (l.overridden = match (ss.filterMap LoadStep.word?).getLast? with
      | none => .ok l.config
      | some word => (overrides (Text.upperAscii word) l.surroundings.environment l.config).mapError
          .override) ∧
    (∀ c, l.load = .ok c ↔ l.overridden = .ok c ∧ validate c = .ok ()) ∧
    (∀ before t after, ss = before ++ t :: after → t.isLayer = true →
      (∃ u ∈ after, u.replaces s = true) → (start s).steps (before ++ after) = .ok l) ∧
    ∀ more : List LoadStep, more.filter (·.isWord) = ss.filter (·.isWord) →
      more.filter (fun t => !t.isWord) = ss.filter (fun t => !t.isWord) →
      (start s).steps more = .ok l := by
  refine ⟨?_, ?_, ?_, fun _ => load_eq_ok_iff, ?_, ?_⟩
  · rintro before t after rfl layer last c
    have brings : t.Brings s l.config := brings_of_steps (l := start s) asked layer last done
    constructor
    · intro brought
      exact brought.unique brings
    · rintro rfl
      exact brings
  · intro none
    exact config_of_steps (l := start s) asked none done
  · have word := firstWord_of_steps done
    rw [show (start s).firstWord = none from rfl, Option.or_none] at word
    rw [overridden, word]
    cases (ss.filterMap LoadStep.word?).getLast? <;> rfl
  · rintro before t after rfl layer covered
    exact steps_without (l := start s) asked layer covered done
  · intro more words others
    rw [steps_eq_filter, words, others, ← steps_eq_filter, done]

/-- Two documents and two first words: the second of each counts, wherever the words stand. -/
theorem last_layer_counts_documents :
    let s : Surroundings := ⟨"/srv", [], []⟩
    let first : LoadStep := .document "[retry]\nmax_attempts=5" "toml"
    let second : LoadStep := .document "[retry]\njitter_ms=7" "toml"
    let ss := [.firstWord "cats", first, .firstWord "vigil", second]
    (∀ t ∈ ss, t.isPlacing = false) ∧ ∃ l, (start s).steps ss = .ok l ∧
      (start s).steps [.firstWord "cats", .firstWord "vigil", second] = .ok l ∧
      (start s).steps [first, second, .firstWord "cats", .firstWord "vigil"] = .ok l ∧
      l.config.retry.maxAttempts = 3 ∧ l.config.retry.jitter = 7 := by
  intro s first second ss
  have asked : ∀ t ∈ ss, t.isPlacing = false := by decide
  have shown : ((start s).steps ss).toOption.map
      (fun l => (l.config.retry.maxAttempts, l.config.retry.jitter)) = some (3, 7) := by
    decide +kernel
  cases done : (start s).steps ss with
  | error => simp [done, Except.toOption] at shown
  | ok l =>
    obtain ⟨-, -, -, -, without, moved⟩ := last_layer_counts asked done
    simp only [done, Except.toOption, Option.map_some, Option.some.injEq, Prod.mk.injEq] at shown
    refine ⟨asked, l, rfl, ?_, ?_, shown.1, shown.2⟩
    · exact without [.firstWord "cats"] first [.firstWord "vigil", second] rfl rfl
        ⟨second, by simp, rfl⟩
    · exact moved _ rfl rfl

end Loading

end Ingress.Config
