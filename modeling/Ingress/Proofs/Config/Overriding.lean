import Mathlib.Data.List.Nodup
import Ingress.Proofs.Config.Settings

/-!
# What the variables of an environment change

Under a first word each setting has one variable, and no two settings share one. Applying variables
one after the other replaces the contents of the settings whose variables are there and leaves the
rest alone. What a value stands for never depends on the configuration, so that the order of the
variables does not matter as long as their names differ.
-/

namespace Ingress.Config

open Fallible

variable {first : String} {c c' : Config} {e : Environment}

/-! ### The variable of a setting -/

theorem pathWords.go_ne_nil (cs : List Char) : pathWords.go cs ≠ [] := by
  fun_induction pathWords.go cs <;> simp_all

/-- Words put together again are the text that they were taken from, so that different texts have
different words. -/
theorem pathWords.intercalate_go (cs : List Char) :
    ['_', '_'].intercalate (pathWords.go cs) = cs := by
  fun_induction pathWords.go cs with
  | case1 => rfl
  | case2 rest ih =>
    obtain ⟨word, more, same⟩ := List.exists_cons_of_ne_nil (pathWords.go_ne_nil rest)
    rw [same] at ih ⊢
    rw [List.intercalate_cons_cons, ih]
    rfl
  | case3 c rest _ none => exact absurd none (pathWords.go_ne_nil rest)
  | case4 c rest _ word more same ih =>
    rw [same] at ih
    cases more with
    | nil => simpa [List.intercalate] using ih
    | cons next others =>
      rw [List.intercalate_cons_cons] at ih ⊢
      rw [← ih]
      rfl

theorem joined_pathWords (cs : List Char) : (Text.joined "__" (pathWords cs)).toList = cs := by
  have words : (pathWords cs).map String.toList = pathWords.go cs := by
    simp [pathWords, Function.comp_def]
  rw [Text.joined, String.toList_intercalate, words]
  exact pathWords.intercalate_go cs

/-- The characters of a text after those at its front, if they are there. -/
theorem afterFront?_eq_some_iff {front cs rest : List Char} :
    afterFront? front cs = some rest ↔ cs = front ++ rest := by
  rw [afterFront?, Option.ite_none_right_eq_some, List.isPrefixOf_iff_prefix]
  constructor
  · rintro ⟨⟨more, rfl⟩, same⟩
    simpa using same
  · rintro rfl
    simp

namespace Setting

/-- The variable of a setting under a first word. -/
def variable_ (first : String) (s : Setting) : String :=
  first ++ "__" ++ Text.joined "__" s.path

theorem mem_all (s : Setting) : s ∈ all := by
  cases s <;> decide

theorem path_injective : Function.Injective path := fun _ _ same =>
  List.inj_on_of_nodup_map (l := all) (by decide) (mem_all _) (mem_all _) same

theorem ofPath?_eq_some_iff {words : List String} {s : Setting} :
    ofPath? words = some s ↔ s.path = words := by
  constructor
  · intro found
    simpa using List.find?_some found
  · rintro rfl
    have found : (ofPath? s.path).isSome := by
      simpa [ofPath?] using ⟨s, mem_all s, rfl⟩
    obtain ⟨t, found⟩ := Option.isSome_iff_exists.1 found
    have same : t.path = s.path := by simpa using List.find?_some found
    rw [found, path_injective same]

theorem pathWords_path (s : Setting) : pathWords (Text.joined "__" s.path).toList = s.path := by
  cases s <;> rfl

end Setting

/-- A variable stands for a setting exactly if it is the setting's variable. -/
theorem settingOf?_eq_some_iff {name : String} {s : Setting} :
    settingOf? first name = some s ↔ name = s.variable_ first := by
  simp only [settingOf?, Option.bind_eq_bind, Option.bind_eq_some_iff, afterFront?_eq_some_iff,
    Setting.ofPath?_eq_some_iff]
  constructor
  · rintro ⟨rest, front, words, rfl, path⟩
    rw [← String.toList_inj, front, Setting.variable_, path]
    simp [joined_pathWords]
  · rintro rfl
    exact ⟨_, by simp [Setting.variable_], _, rfl, (Setting.pathWords_path s).symm⟩

/-- No two settings share a variable. -/
theorem variable_injective (first : String) : Function.Injective (Setting.variable_ first) := by
  intro s t same
  have stands := settingOf?_eq_some_iff.2 same
  rw [settingOf?_eq_some_iff.2 rfl] at stands
  exact Option.some.inj stands

/-! ### One variable -/

/-- A variable of no setting changes nothing, whatever its value. -/
theorem override_stranger {v : String × String}
    (stranger : ∀ s : Setting, v.1 ≠ s.variable_ first) : override_ first c v = .ok c := by
  have none : settingOf? first v.1 = none :=
    Option.eq_none_iff_forall_ne_some.2 fun s found => stranger s (settingOf?_eq_some_iff.1 found)
  rw [override_, none]

/-- The variable of a setting replaces the setting's content with what its value stands for. Whether
that is anything does not depend on the configuration. -/
theorem override_variable (s : Setting) (text : String) :
    override_ first c (s.variable_ first, text) =
      (s.put · c) <$> (s.read text).mapError (BadOverride.mk (s.variable_ first)) := by
  rw [override_, settingOf?_eq_some_iff.2 rfl]
  simp only [Setting.change_eq]
  cases s.read text <;> rfl

theorem stranger_or_variable (first : String) (v : String × String) :
    (∀ s : Setting, v.1 ≠ s.variable_ first) ∨
      ∃ (s : Setting) (text : String), v = (s.variable_ first, text) := by
  by_cases known : ∃ s : Setting, v.1 = s.variable_ first
  · obtain ⟨s, named⟩ := known
    exact .inr ⟨s, v.2, Prod.ext named rfl⟩
  · exact .inl (not_exists.1 known)

theorem override_variable_eq_ok_iff {s : Setting} {text : String} :
    override_ first c (s.variable_ first, text) = .ok c' ↔
      ∃ a, s.read text = .ok a ∧ s.put a c = c' := by
  simp only [override_variable, map_eq_ok_iff, mapError_eq_ok_iff]

theorem override_variable_eq_error_iff {s : Setting} {text : String} {b : BadOverride} :
    override_ first c (s.variable_ first, text) = .error b ↔
      ∃ why, s.read text = .error why ∧ ⟨s.variable_ first, why⟩ = b := by
  simp only [override_variable, map_eq_error_iff, mapError_eq_error_iff]

/-- A variable leaves the contents of all settings but its own. -/
theorem content_override_of_ne {v : String × String} (done : override_ first c v = .ok c')
    (s : Setting) (other : v.1 ≠ s.variable_ first) : s.content c' = s.content c := by
  obtain stranger | ⟨t, text, rfl⟩ := stranger_or_variable first v
  · rw [override_stranger stranger] at done
    rw [Except.ok.inj done]
  · obtain ⟨a, -, rfl⟩ := override_variable_eq_ok_iff.1 done
    exact s.content_put_of_ne (fun same => other (same ▸ rfl)) a c

/-! ### All variables -/

/-- A setting whose variable is not there keeps its content. -/
theorem content_overrides_of_absent (done : overrides first e c = .ok c') (s : Setting)
    (absent : ∀ text, (s.variable_ first, text) ∉ e) : s.content c' = s.content c := by
  refine foldlM_induction (motive := fun b => s.content b = s.content c) rfl ?_ done
  intro v among b b' kept stepped
  rw [content_override_of_ne stepped s fun named => absent v.2 (named ▸ among), kept]

/-- A setting has the content that the last value of its variable stands for. -/
theorem read_eq_content_overrides {before after : Environment} {s : Setting} {text : String}
    (done : overrides first (before ++ (s.variable_ first, text) :: after) c = .ok c')
    (last : ∀ text, (s.variable_ first, text) ∉ after) : s.read text = .ok (s.content c') := by
  rw [overrides, List.foldlM_append, bind_eq_ok_iff] at done
  obtain ⟨c₁, -, done⟩ := done
  rw [List.foldlM_cons, bind_eq_ok_iff] at done
  obtain ⟨c₂, own, later⟩ := done
  obtain ⟨a, reads, rfl⟩ := override_variable_eq_ok_iff.1 own
  rw [reads, content_overrides_of_absent later s last, s.content_put_self]

/-- Where variables have different names each setting has the content that the value of its variable
stands for. -/
theorem read_of_mem (distinct : (e.map Prod.fst).Nodup) (done : overrides first e c = .ok c')
    {s : Setting} {text : String} (here : (s.variable_ first, text) ∈ e) :
    s.read text = .ok (s.content c') := by
  obtain ⟨before, after, rfl⟩ := List.append_of_mem here
  have last : s.variable_ first ∉ after.map Prod.fst := by
    rw [List.map_append, List.map_cons] at distinct
    exact (List.nodup_cons.1 distinct.of_append_right).1
  exact read_eq_content_overrides done fun text among => last (List.mem_map_of_mem among)

/-- What is told of variables that fail is the fault of one of them. -/
theorem unreadable_of_overrides {b : BadOverride} (failed : overrides first e c = .error b) :
    ∃ (s : Setting) (text why : String), (s.variable_ first, text) ∈ e ∧
      s.read text = .error why ∧ ⟨s.variable_ first, why⟩ = b := by
  obtain ⟨v, among, b', failed⟩ := exists_of_foldlM_eq_error failed
  obtain stranger | ⟨s, text, rfl⟩ := stranger_or_variable first v
  · simp [override_stranger stranger] at failed
  · obtain ⟨why, unread, same⟩ := override_variable_eq_error_iff.1 failed
    exact ⟨s, text, why, among, unread, same⟩

theorem overrides_fail_iff (distinct : (e.map Prod.fst).Nodup) :
    (∃ b, overrides first e c = .error b) ↔
      ∃ (s : Setting) (text why : String),
        (s.variable_ first, text) ∈ e ∧ s.read text = .error why := by
  constructor
  · rintro ⟨b, failed⟩
    obtain ⟨s, text, why, among, unread, -⟩ := unreadable_of_overrides failed
    exact ⟨s, text, why, among, unread⟩
  · rintro ⟨s, text, why, among, unread⟩
    cases done : overrides first e c with
    | error b => exact ⟨b, rfl⟩
    | ok c' => simp [read_of_mem distinct done among] at unread

/-- Variables with different names do the same in any order. -/
theorem toOption_overrides_perm {e' : Environment} (distinct : (e.map Prod.fst).Nodup)
    (same : e.Perm e') : (overrides first e c).toOption = (overrides first e' c).toOption := by
  have distinct' : (e'.map Prod.fst).Nodup := (same.map Prod.fst).nodup_iff.1 distinct
  have fails : (∃ b, overrides first e c = .error b) ↔ ∃ b, overrides first e' c = .error b := by
    simp only [overrides_fail_iff distinct, overrides_fail_iff distinct', same.mem_iff]
  cases done : overrides first e c with
  | error b =>
    obtain ⟨b', failed⟩ := fails.1 ⟨b, done⟩
    rw [failed]
    rfl
  | ok c₁ =>
    cases done' : overrides first e' c with
    | error b' => simp [done, done'] at fails
    | ok c₂ =>
      refine congrArg some (Setting.eq_of_content fun s => ?_)
      by_cases here : ∃ text, (s.variable_ first, text) ∈ e
      · obtain ⟨text, here⟩ := here
        have reads := read_of_mem distinct done here
        rw [read_of_mem distinct' done' (same.mem_iff.1 here)] at reads
        exact (Except.ok.inj reads).symm
      · have absent := not_exists.1 here
        rw [content_overrides_of_absent done s absent, content_overrides_of_absent done' s
          fun text among => absent text (same.mem_iff.2 among)]

/-- Variables of no setting may be left out, whatever their values. -/
theorem overrides_filter (first : String) (e : Environment) (c : Config) :
    overrides first (e.filter fun v => ∃ s ∈ Setting.all, v.1 = s.variable_ first) c =
      overrides first e c := by
  rw [overrides, List.foldlM_filter, overrides]
  congr 1
  funext b v
  split
  · rfl
  case isFalse unknown =>
    refine (override_stranger fun s named => unknown ?_).symm
    exact decide_eq_true ⟨s, s.mem_all, named⟩

/-! ### A variable among others -/

section

variable {s : Setting} {a : s.Content}

/-- The variables but those of one name. -/
def Environment.without (name : String) (e : Environment) : Environment := e.filter (·.1 ≠ name)

/-- What a setting held does not matter to its own variable. -/
theorem override_put_self (b : s.Content) (text : String) :
    override_ first (s.put b c) (s.variable_ first, text) =
      override_ first c (s.variable_ first, text) := by
  simp only [override_variable, Setting.put_put]

/-- The other variables keep what a setting holds. -/
theorem override_put_of_ne {v : String × String} (other : v.1 ≠ s.variable_ first)
    (a : s.Content) : override_ first (s.put a c) v = s.put a <$> override_ first c v := by
  obtain stranger | ⟨t, text, rfl⟩ := stranger_or_variable first v
  · rw [override_stranger stranger, override_stranger stranger]
    rfl
  · have apart : t ≠ s := fun same => other (same ▸ rfl)
    simp only [override_variable, Setting.put_comm apart]
    cases t.read text <;> rfl

/-- A setting that has a variable loses what it held before. -/
theorem overrides_put_of_mem (here : s.variable_ first ∈ e.map Prod.fst) (b : s.Content) :
    overrides first e (s.put b c) = overrides first e c := by
  induction e generalizing c with
  | nil => cases here
  | cons v e ih =>
    obtain ⟨name, text⟩ := v
    rw [overrides, overrides, List.foldlM_cons, List.foldlM_cons]
    by_cases own : name = s.variable_ first
    · rw [own, override_put_self]
    · have later : s.variable_ first ∈ e.map Prod.fst :=
        (List.mem_cons.1 here).resolve_left (Ne.symm own)
      rw [override_put_of_ne own]
      cases override_ first c (name, text) with
      | error => rfl
      | ok c' => exact ih later

/-- Where a setting holds already what the texts of its variable stand for, the variable may be left
out. -/
theorem overrides_put_without
    (reads : ∀ text, (s.variable_ first, text) ∈ e → s.read text = .ok a) :
    overrides first e (s.put a c) =
      overrides first (e.without (s.variable_ first)) (s.put a c) := by
  induction e generalizing c with
  | nil => rfl
  | cons v e ih =>
    obtain ⟨name, text⟩ := v
    have later := fun text among => reads text (List.mem_cons_of_mem _ among)
    rw [overrides, List.foldlM_cons, Environment.without]
    by_cases own : name = s.variable_ first
    · subst own
      rw [List.filter_cons_of_neg (by simp), override_put_self, override_variable,
        reads text List.mem_cons_self]
      exact ih later
    · rw [List.filter_cons_of_pos (by simpa using own), overrides, List.foldlM_cons,
        override_put_of_ne own]
      cases override_ first c (name, text) with
      | error => rfl
      | ok c' => exact ih later

theorem overrides_strangers (strangers : ∀ v ∈ e, ∀ t : Setting, v.1 ≠ t.variable_ first) :
    overrides first e c = .ok c := by
  have none : (e.filter fun v => ∃ t ∈ Setting.all, v.1 = t.variable_ first) = [] := by
    simpa [List.filter_eq_nil_iff] using fun name text among t _ => strangers _ among t
  rw [← overrides_filter, none]
  rfl

end

/-! ### The order of the variables -/

/-- What the variables of an environment do depends on their names and not on their order. Where all
names differ, an order fails exactly if all do; a setting takes the content that the value of its
own variable stands for, and keeps what it has without one; variables of no setting do nothing; and
what fails does so for the value of a setting's variable. -/
theorem overrides_by_name (first : String) (c : Config) {e : Environment}
    (distinct : (e.map Prod.fst).Nodup) :
    (∀ e', e.Perm e' → (overrides first e c).toOption = (overrides first e' c).toOption) ∧
      (∀ c', overrides first e c = .ok c' → ∀ s : Setting,
        (∀ text, (s.variable_ first, text) ∈ e → s.read text = .ok (s.content c')) ∧
          ((∀ text, (s.variable_ first, text) ∉ e) → s.content c' = s.content c)) ∧
      overrides first (e.filter fun v => ∃ s ∈ Setting.all, v.1 = s.variable_ first) c =
        overrides first e c ∧
      ((∃ b, overrides first e c = .error b) ↔
        ∃ (s : Setting) (text why : String),
          (s.variable_ first, text) ∈ e ∧ s.read text = .error why) :=
  ⟨fun _ same => toOption_overrides_perm distinct same,
    fun _ done s =>
      ⟨fun _ here => read_of_mem distinct done here, content_overrides_of_absent done s⟩,
    overrides_filter first e c, overrides_fail_iff distinct⟩

/-- Two settings and a stranger, in one order and in the other. -/
theorem overrides_by_name_attempts :
    let e : Environment := [("VIGIL__RETRY__MAX_ATTEMPTS", "5"), ("HOME", "/root"),
      ("VIGIL__RETRY__JITTER_MS", " 7 ")]
    (e.map Prod.fst).Nodup ∧
      ∃ c, overrides "VIGIL" e standard = .ok c ∧ overrides "VIGIL" e.reverse standard = .ok c ∧
        c.retry.maxAttempts = 5 ∧ c.retry.jitter = 7 ∧ c.retry.baseBackoff = 100 := by
  intro e
  have distinct : (e.map Prod.fst).Nodup := by decide
  obtain ⟨ordered, contents, -, -⟩ := overrides_by_name "VIGIL" standard distinct
  obtain ⟨c, done⟩ : ∃ c, overrides "VIGIL" e standard = .ok c := ⟨_, rfl⟩
  have reversed : overrides "VIGIL" e.reverse standard = .ok c := by
    have same := ordered e.reverse e.reverse_perm.symm
    rw [done] at same
    cases told : overrides "VIGIL" e.reverse standard with
    | error b => simp [told, Except.toOption] at same
    | ok c' => simpa [told, Except.toOption] using same.symm
  have attempts := (contents c done .maxAttempts).1 "5" (by decide)
  have jitter := (contents c done .jitter).1 " 7 " (by decide)
  have unnamed : Setting.baseBackoff.variable_ "VIGIL" ∉ e.map Prod.fst := by decide
  have backoff := (contents c done .baseBackoff).2 fun _ here =>
    unnamed (List.mem_map_of_mem here)
  exact ⟨distinct, c, done, reversed, (Except.ok.inj attempts).symm, (Except.ok.inj jitter).symm,
    backoff⟩

end Ingress.Config
