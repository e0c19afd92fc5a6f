import Ingress.Proofs.Config.Layering
import Ingress.Proofs.Config.Overriding
import Ingress.Proofs.Config.Validity
import Ingress.Proofs.Text.LetterCase

/-!
# Settings that a variable unsets

Three settings need not be set: the limit of requests, the limit of attempts and the address of the
metrics. A variable with nothing but blanks in it unsets each of them, and what an earlier layer had
put there is lost with all that was wrong about it. The word `none` unsets a limit as well. For the
metrics it is an address like any other text, and no service can listen there.
-/

namespace Ingress

/-! ### The word that is no address -/

/-- A text that spells the word begins with one of two letters. -/
theorem Text.Spells.begins {text : String} (spells : Text.Spells text "none") :
    ∃ c rest, text.toList = c :: rest ∧ (c = 'n' ∨ c = 'N') := by
  obtain ⟨c, rest, letter, -, same⟩ := List.forall₂_cons_right_iff.1 spells
  exact ⟨c, rest, same, letter⟩

namespace Http.Address

/-- A socket address begins with a digit or with a bracket. -/
theorem isSocketAddress_eq_false {text : String} {c : Char} {rest : List Char}
    (begins : text.toList = c :: rest) (digit : digit? 10 c = none) (bracket : c ≠ '[') :
    isSocketAddress text = false := by
  have noByte : byte? (c :: rest) = none := by
    simp [byte?, number?, digit]
  have noBytes : bytes? 4 (c :: rest) = none := by
    simp [bytes?, noByte]
  rw [isSocketAddress, ofText?, begins]
  split
  · next same => exact absurd (List.cons.inj same).1 bracket
  · simp [noBytes]

/-- No service can listen at `none`. -/
theorem isSocketAddress_eq_false_of_spells {text : String} (spells : Text.Spells text "none") :
    isSocketAddress text = false := by
  obtain ⟨c, rest, begins, rfl | rfl⟩ := spells.begins
  · exact isSocketAddress_eq_false begins (by decide) (by decide)
  · exact isSocketAddress_eq_false begins (by decide) (by decide)

end Http.Address

namespace Config

open Fallible

namespace Setting

/-- What a setting holds while it is not set, for those that need not be set. -/
def unset? : (s : Setting) → Option s.Content
  | defaultTimeout | attemptTimeout => some (none : Option Nat)
  | listenAddress => some (none : Option String)
  | _ => none

/-- The texts that unset a setting: blanks, and for a limit also a word. -/
def Unsets : Setting → String → Prop
  | defaultTimeout, text | attemptTimeout, text =>
    Text.trim text = "" ∨ Text.Spells (Text.trim text) "none"
  | listenAddress, text => Text.trim text = ""
  | _, _ => False

theorem optionalMillis_eq_none_iff {text : String} : optionalMillis text = .ok none ↔
    Text.trim text = "" ∨ Text.Spells (Text.trim text) "none" := by
  have small : ∀ d ∈ "none".toList, d.toLower = d := by simp
  rw [optionalMillis, ← Text.sameWord_iff small]
  split
  case isTrue unset => exact iff_of_true rfl unset
  case isFalse set =>
    refine iff_of_false (fun read => ?_) set
    obtain ⟨n, -, done⟩ := bind_eq_ok_iff.1 read
    cases done

/-- The address is what the text says between its blanks, if anything. -/
theorem read_listenAddress_eq_ok_iff {text : String} {address : Option String} :
    listenAddress.read text = .ok address ↔
      (if Text.trim text = "" then none else some (Text.trim text)) = address :=
  ⟨Except.ok.inj, congrArg Except.ok⟩

theorem read_eq_unset_iff {s : Setting} {a : s.Content} (optional : s.unset? = some a)
    {text : String} : s.read text = .ok a ↔ s.Unsets text := by
  cases s with
  | defaultTimeout | attemptTimeout =>
    cases optional
    exact optionalMillis_eq_none_iff
  | listenAddress =>
    cases optional
    refine read_listenAddress_eq_ok_iff.trans ?_
    simp [Unsets]
  | _ => cases optional

/-- The address is what the text says, even if that is the word `none`. -/
theorem read_listenAddress {text : String} (spells : Text.Spells (Text.trim text) "none") :
    listenAddress.read text = .ok (some (Text.trim text)) := by
  obtain ⟨c, rest, begins, -⟩ := spells.begins
  have told : Text.trim text ≠ "" := by
    intro blank
    rw [blank] at begins
    cases begins
  exact read_listenAddress_eq_ok_iff.2 (if_neg told)

end Setting

/-- The configuration with another address for the metrics, or without one. -/
def withListenAddress (address : Option String) : Config → Config :=
  Setting.inMetrics fun m => { m with listenAddress := address }

/-- What is no address is refused where metrics are on, whatever else makes sense. -/
theorem validate_withListenAddress {c : Config} {address : String}
    (sensible : validate (c.withListenAddress none) = .ok ())
    (wrong : Http.Address.isSocketAddress address = false) :
    validate (c.withListenAddress (some address)) =
      if c.telemetry.metrics.enabled then .error (.listenAddress address) else .ok () := by
  -- All that is checked before the metrics has been found in order without the address.
  have metrics : validate (c.withListenAddress (some address)) = checkMetrics _ :=
    (validate_eq_ok_iff.1 sensible).validate_eq_checkMetrics rfl rfl
  rw [metrics, checkMetrics]
  simp only [withListenAddress, Setting.inMetrics, Setting.inTelemetry, wrong]
  rfl

theorem sensible_production : validate (production.withListenAddress none) = .ok () :=
  validate_eq_ok_iff.2
    { sensible_standard with metrics := fun _ => ⟨nofun, List.cons_ne_nil _ _⟩ }

namespace Loading

/-! ### Loading with a variable -/

variable {l : Loading} {first text : String} {s : Setting} {a : s.Content}

/-- The variable of a setting is there under the first word, with one text. -/
structure Told (l : Loading) (first : String) (s : Setting) (text : String) : Prop where
  firstWord : l.firstWord = some first
  here : (s.variable_ first, text) ∈ l.surroundings.environment
  once : ∀ other, (s.variable_ first, other) ∈ l.surroundings.environment → other = text

/-- No other setting has a variable. -/
structure ToldOnly (l : Loading) (first : String) (s : Setting) (text : String) : Prop
    extends l.Told first s text where
  alone : ∀ t ≠ s, ∀ other, (t.variable_ first, other) ∉ l.surroundings.environment

/-- It is enough to look at each variable that is there. -/
theorem toldOnly_of_forall (firstWord : l.firstWord = some first)
    (here : (s.variable_ first, text) ∈ l.surroundings.environment)
    (only : ∀ v ∈ l.surroundings.environment,
      v = (s.variable_ first, text) ∨ settingOf? first v.1 = none) :
    l.ToldOnly first s text := by
  have same {t : Setting} {other : String}
      (among : (t.variable_ first, other) ∈ l.surroundings.environment) :
      (t.variable_ first, other) = (s.variable_ first, text) := by
    refine (only _ among).resolve_right fun stranger => ?_
    rw [settingOf?_eq_some_iff.2 rfl] at stranger
    cases stranger
  refine ⟨⟨firstWord, here, fun other among => congrArg Prod.snd (same among)⟩, ?_⟩
  intro t apart other among
  exact apart (variable_injective first (congrArg Prod.fst (same among)))

/-- Without the variables of one name. -/
def without (name : String) (l : Loading) : Loading :=
  { l with surroundings :=
    { l.surroundings with environment := l.surroundings.environment.without name } }

/-- A variable may as well be left out if what it says is there beforehand. -/
theorem Told.overridden_eq (told : l.Told first s text) (reads : s.read text = .ok a) :
    l.overridden =
      ({ l with config := s.put a l.config }.without (s.variable_ first)).overridden := by
  have named : s.variable_ first ∈ l.surroundings.environment.map Prod.fst :=
    List.mem_map_of_mem told.here
  have all (other) (among : (s.variable_ first, other) ∈ l.surroundings.environment) :
      s.read other = .ok a := by rw [told.once other among, reads]
  simp only [overridden, without, told.firstWord]
  rw [← overrides_put_of_mem named a, overrides_put_without all]

theorem Told.load_eq (told : l.Told first s text) (reads : s.read text = .ok a) :
    l.load = ({ l with config := s.put a l.config }.without (s.variable_ first)).load := by
  rw [load, load, told.overridden_eq reads]

theorem ToldOnly.overridden_eq (told : l.ToldOnly first s text) (reads : s.read text = .ok a) :
    l.overridden = .ok (s.put a l.config) := by
  have strangers : ∀ v ∈ l.surroundings.environment.without (s.variable_ first),
      ∀ t : Setting, v.1 ≠ t.variable_ first := by
    rintro ⟨name, other⟩ among t rfl
    obtain ⟨among, apart⟩ := List.mem_filter.1 among
    have apart : t ≠ s := by
      rintro rfl
      simp at apart
    exact told.alone t apart other among
  rw [told.toTold.overridden_eq reads]
  simp only [overridden, without, told.firstWord, overrides_strangers strangers]
  rfl

/-- The settings that need not be set are unset by exactly those texts that are blank and, for the
limits, by the word `none` in any letter case. The variable leaves every other setting; what is
loaded is what would be loaded if the setting had been unset before and had no variable, so that
nothing is told of a value that made no sense. The word `none` is taken for an address instead, and
nothing is loaded with it where metrics are on. -/
theorem unset_by_variable (first text : String) :
    (∀ (s : Setting) (a : s.Content), s.unset? = some a →
      (∀ c, (∃ c', override_ first c (s.variable_ first, text) = .ok c' ∧ s.content c' = a ∧
        ∀ t, t ≠ s → t.content c' = t.content c) ↔ s.Unsets text) ∧
      (s.Unsets text → ∀ l : Loading,
        (l.Told first s text →
          l.load = ({ l with config := s.put a l.config }.without (s.variable_ first)).load) ∧
        (l.ToldOnly first s text → validate (s.put a l.config) = .ok () →
          l.load = .ok (s.put a l.config)))) ∧
    (Text.Spells (Text.trim text) "none" → ∀ l : Loading, l.ToldOnly first .listenAddress text →
      validate (l.config.withListenAddress none) = .ok () →
      l.load = if l.config.telemetry.metrics.enabled
        then .error (.invalid (.listenAddress (Text.trim text)))
        else .ok (l.config.withListenAddress (some (Text.trim text)))) := by
  refine ⟨fun s a optional => ⟨fun c => ?_, fun unsets l => ⟨?_, ?_⟩⟩, ?_⟩
  · rw [← Setting.read_eq_unset_iff optional]
    constructor
    · rintro ⟨c', done, unset, -⟩
      obtain ⟨b, reads, rfl⟩ := override_variable_eq_ok_iff.1 done
      rw [s.content_put_self] at unset
      rw [reads, unset]
    · intro reads
      exact ⟨_, override_variable_eq_ok_iff.2 ⟨a, reads, rfl⟩, s.content_put_self a c,
        fun t other => Setting.content_put_of_ne other a c⟩
  · intro told
    exact told.load_eq ((Setting.read_eq_unset_iff optional).2 unsets)
  · intro told sensible
    have reads := (Setting.read_eq_unset_iff optional).2 unsets
    exact load_eq_ok_iff.2 ⟨told.overridden_eq reads, sensible⟩
  · intro spells l told sensible
    have changed := told.overridden_eq (Setting.read_listenAddress spells)
    have checked := validate_withListenAddress sensible
      (Http.Address.isSocketAddress_eq_false_of_spells spells)
    cases enabled : l.config.telemetry.metrics.enabled with
    | true =>
      rw [enabled] at checked
      exact load_eq_error changed checked
    | false =>
      rw [enabled] at checked
      exact load_eq_ok_iff.2 ⟨changed, checked⟩

/-- A word between blanks unsets a limit that made no sense before, and in capitals it is no
address. -/
theorem unset_by_variable_attempts :
    let hasty := { standard with retry := { Retry.standard with attemptTimeout := some 0 } }
    let l : Loading := ⟨hasty, some "VIGIL",
      ⟨"/srv", [], [("HOME", "/root"), ("VIGIL__RETRY__ATTEMPT_TIMEOUT_MS", " None ")]⟩⟩
    let m : Loading := ⟨production, some "VIGIL",
      ⟨"/srv", [], [("VIGIL__TELEMETRY__METRICS__LISTEN_ADDR", "NONE")]⟩⟩
    (Setting.attemptTimeout.Unsets " None " ∧ l.ToldOnly "VIGIL" .attemptTimeout " None " ∧
      validate hasty = .error .noAttemptTimeout ∧
      ∃ c, l.load = .ok c ∧ c.retry.attemptTimeout = none ∧ c.retry.maxAttempts = 3) ∧
    Text.Spells (Text.trim "NONE") "none" ∧ m.ToldOnly "VIGIL" .listenAddress "NONE" ∧
      validate (production.withListenAddress none) = .ok () ∧
      m.load = .error (.invalid (.listenAddress "NONE")) := by
  intro hasty l m
  have trimmed : Text.trim " None " = "None" := rfl
  have unsets : Setting.attemptTimeout.Unsets " None " := .inr (by simp [trimmed, Text.Spells])
  have told : l.ToldOnly "VIGIL" .attemptTimeout " None " :=
    toldOnly_of_forall rfl (by decide) (by decide)
  have sensible : Sensible (Setting.attemptTimeout.put none hasty) :=
    { sensible_standard with attemptTimeout := nofun }
  have trimmed : Text.trim "NONE" = "NONE" := rfl
  have spells : Text.Spells (Text.trim "NONE") "none" := by simp [trimmed, Text.Spells]
  have told' : m.ToldOnly "VIGIL" .listenAddress "NONE" :=
    toldOnly_of_forall rfl (by decide) (by decide)
  have loaded : l.load = .ok (Setting.attemptTimeout.put none hasty) :=
    (((unset_by_variable "VIGIL" " None ").1 .attemptTimeout none rfl).2 unsets l).2 told
      (validate_eq_ok_iff.2 sensible)
  have refused := (unset_by_variable "VIGIL" "NONE").2 spells m told' sensible_production
  rw [trimmed] at refused
  exact ⟨⟨unsets, told, rfl, _, loaded, rfl, rfl⟩, spells, told', sensible_production,
    refused⟩

/-- An address is not unset by the word `none`: the word stays for an address, and nothing is loaded
with it. -/
theorem none_taken_for_address :
    let s : Surroundings := ⟨"/srv", [], [("VIGIL__TELEMETRY__METRICS__LISTEN_ADDR", "none")]⟩
    Text.Spells (Text.trim "none") "none" ∧
      ∃ l, (start s).steps [.preset production, .firstWord "VIGIL"] = .ok l ∧
        validate (l.config.withListenAddress none) = .ok () ∧
        (∃ c, l.overridden = .ok c ∧ c.telemetry.metrics.listenAddress = some "none") ∧
        l.load = .error (.invalid (.listenAddress "none")) := by
  intro s
  have trimmed : Text.trim "none" = "none" := rfl
  have spells : Text.Spells "none" "none" := by simp [Text.Spells]
  have reached : (start s).steps [.preset production, .firstWord "VIGIL"] =
      .ok ⟨production, some "VIGIL", s⟩ := by
    have capitals : Text.upperAscii "VIGIL" = "VIGIL" := by decide +kernel
    change Except.ok (Loading.mk production (some (Text.upperAscii "VIGIL")) s) = _
    rw [capitals]
  have changed : overridden ⟨production, some "VIGIL", s⟩ =
      .ok (production.withListenAddress (some "none")) := rfl
  have refused := validate_withListenAddress sensible_production
    (Http.Address.isSocketAddress_eq_false_of_spells spells)
  exact ⟨trimmed ▸ spells, _, reached, sensible_production, ⟨_, changed, rfl⟩,
    load_eq_error changed refused⟩

end Loading

end Config

end Ingress
