import Scrutiny.Proofs.Rule.Deciding
import Scrutiny.Proofs.Settings.Booleans
import Scrutiny.Proofs.Text.Lowering

/-!
# Where settings come from

A setting that is given is taken, and what its variable says makes no difference, not even if it
says nothing that could be read. One that is not given depends on its variable alone. Settings are
refused for an empty separator that is given and for variables that are looked up and cannot be read,
and for nothing else.
-/

set_option autoImplicit false

namespace Scrutiny

open Text

inductive Setting where
  | separator
  | booleans
  | finishOnce
  | firstYear
  | lastYear

namespace Setting

def name : Setting → String
  | separator => "INPUT_SEPARATOR"
  | booleans => "BOOLEAN_INPUTS"
  | finishOnce => "STRICT_FINISH"
  | firstYear => "CRON_MIN_YEAR"
  | lastYear => "CRON_MAX_YEAR"

def booleanWords : List String := ["1", "true", "yes", "on"] ++ ["0", "false", "no", "off"]

/-- A text that says no value of a setting. Separators and lists of tokens may be any text. -/
def Misreads : Setting → List Char → Prop
  | separator, _ => False
  | booleans, _ => False
  | finishOnce, t => ∀ w ∈ booleanWords, t.map Char.toLower ≠ w.toList
  | firstYear, t => readInteger? t = none
  | lastYear, t => readInteger? t = none

end Setting

namespace Settings

def part (s : Settings) : Setting → Value
  | .separator => .text s.separator
  | .booleans => .tuple (s.booleans.map .text)
  | .finishOnce => s.finishOnce
  | .firstYear => .int s.firstYear
  | .lastYear => .int s.lastYear

def Given.part (g : Given) : Setting → Option Value
  | .separator => g.separator.map .text
  | .booleans => g.booleans
  | .finishOnce => g.finishOnce
  | .firstYear => g.firstYear.map .int
  | .lastYear => g.lastYear.map .int

/-- The tokens that are given, if any are, can be walked through and written, as texts can. -/
def Given.HasTokens (g : Given) : Prop :=
  ∀ v, g.booleans = some v → ∃ items, v.members? = some items ∧ ∀ w ∈ items, w.IsWritable

def Garbles (g : Given) (env : Environment) (x : Setting) : Prop :=
  g.part x = none ∧ ∃ s, env (g.variable x.name) = some s ∧ ¬ Blanks s.toList ∧
    x.Misreads (trim s.toList)

inductive SameIf {α : Type} (p : Prop) : Except Fault α → Except Fault α → Prop
  | ok (a : α) : SameIf p (.ok a) (.ok a)
  | error {e e' : Fault} (h : p → e = e') : SameIf p (.error e) (.error e')

namespace SameIf
variable {α : Type} {p : Prop} {x y : Except Fault α}

theorem refl (x : Except Fault α) : SameIf p x x := by
  cases x with
  | ok a => exact .ok a
  | error e => exact .error fun _ => rfl

theorem eq (h : SameIf p x y) (hp : p) : x = y := by
  cases h with
  | ok a => rfl
  | error h => rw [h hp]

theorem value_eq {a b : α} (h : SameIf p x y) (hx : x = .ok a) (hy : y = .ok b) : a = b := by
  subst hx hy
  cases h with
  | ok a => rfl

end SameIf

section
variable {g g' : Given} {env env' : Environment}

theorem resolveSeparator_same (hg : g.separator = g'.separator)
    (hv : g.separator = none → env (g.variable Setting.separator.name) =
      env' (g'.variable Setting.separator.name)) :
    SameIf (g.start = g'.start) (resolveSeparator g env) (resolveSeparator g' env') := by
  unfold resolveSeparator
  rw [← hg]
  cases hs : g.separator with
  | some s =>
    dsimp only
    split
    · exact .error fun h => by rw [Given.variable, h]; rfl
    · exact .ok s
  | none =>
    have hv := hv hs
    rw [Setting.name] at hv
    rw [hv]
    exact .refl _

theorem trimmed?_congr {n n' : String} (h : env n = env' n') :
    trimmed? env n = trimmed? env' n' := by
  rw [trimmed?, trimmed?, h]

theorem resolveBooleans_same (hg : g.booleans = g'.booleans)
    (hv : g.booleans = none → env (g.variable Setting.booleans.name) =
      env' (g'.variable Setting.booleans.name)) :
    SameIf (g.start = g'.start) (resolveBooleans g env) (resolveBooleans g' env') := by
  unfold resolveBooleans
  rw [← hg]
  cases hb : g.booleans with
  | some v => exact .refl _
  | none =>
    have ht := trimmed?_congr (hv hb)
    rw [Setting.name] at ht
    rw [environmentTokens, environmentTokens, ht]
    exact .refl _

theorem resolveFinishOnce_same (hg : g.finishOnce = g'.finishOnce)
    (hv : g.finishOnce = none → env (g.variable Setting.finishOnce.name) =
      env' (g'.variable Setting.finishOnce.name)) :
    SameIf (g.start = g'.start) (resolveFinishOnce g env) (resolveFinishOnce g' env') := by
  unfold resolveFinishOnce
  rw [← hg]
  cases hf : g.finishOnce with
  | some v => exact .ok v
  | none =>
    have ht := trimmed?_congr (hv hf)
    rw [Setting.name] at ht
    rw [ht]
    split
    · contradiction
    · exact .ok _
    split
    · exact .ok _
    · exact .error fun h => by rw [Given.variable, h]; rfl

theorem resolveYear_same (given : Option Int) {name : String} (default : Int)
    (hv : given = none → env (g.variable name) = env' (g'.variable name)) :
    SameIf (g.start = g'.start) (resolveYear g env given name default)
      (resolveYear g' env' given name default) := by
  unfold resolveYear
  cases given with
  | some n => exact .ok n
  | none =>
    rw [trimmed?_congr (hv rfl)]
    split
    · contradiction
    · exact .ok default
    split
    · exact .ok _
    · exact .error fun h => by rw [Given.variable, h]; rfl

end

theorem resolve_congr {g : Given} {env env' : Environment}
    (h : ∀ x, g.part x = none → env (g.variable x.name) = env' (g.variable x.name)) :
    resolve g env = resolve g env' := by
  have hs : resolveSeparator g env = resolveSeparator g env' :=
    (resolveSeparator_same rfl fun hg => h .separator (Option.map_eq_none_iff.2 hg)).eq rfl
  have hb : resolveBooleans g env = resolveBooleans g env' :=
    (resolveBooleans_same rfl fun hg => h .booleans hg).eq rfl
  have ho : resolveFinishOnce g env = resolveFinishOnce g env' :=
    (resolveFinishOnce_same rfl fun hg => h .finishOnce hg).eq rfl
  have hf := (resolveYear_same g.firstYear standard.firstYear
    fun hg => h .firstYear (Option.map_eq_none_iff.2 hg)).eq rfl
  have hl := (resolveYear_same g.lastYear standard.lastYear
    fun hg => h .lastYear (Option.map_eq_none_iff.2 hg)).eq rfl
  simp only [Setting.name] at hf hl
  rw [resolve, resolve, hs, hb, ho, hf, hl]

theorem part_congr {g g' : Given} {env env' : Environment} {s s' : Settings} {x : Setting}
    (hg : g.part x = g'.part x)
    (hv : g.part x = none → env (g.variable x.name) = env' (g'.variable x.name))
    (h : resolve g env = .ok s) (h' : resolve g' env' = .ok s') : s.part x = s'.part x := by
  obtain ⟨hs, hb, ho, hf, hl⟩ := resolve_ok h
  obtain ⟨hs', hb', ho', hf', hl'⟩ := resolve_ok h'
  have hint : Function.Injective Value.int := fun _ _ h => Value.int.inj h
  cases x with
  | separator =>
    have hgiven := Option.map_injective (fun _ _ h => Value.text.inj h) hg
    have := resolveSeparator_same hgiven fun hn => hv (Option.map_eq_none_iff.2 hn)
    rw [part, this.value_eq hs hs', part]
  | booleans =>
    rw [part, (resolveBooleans_same hg hv).value_eq hb hb', part]
  | finishOnce => exact (resolveFinishOnce_same hg hv).value_eq ho ho'
  | firstYear =>
    rw [← Option.map_injective hint hg] at hf'
    have := resolveYear_same g.firstYear standard.firstYear
      fun hn => hv (Option.map_eq_none_iff.2 hn)
    rw [part, this.value_eq hf hf', part]
  | lastYear =>
    rw [← Option.map_injective hint hg] at hl'
    have := resolveYear_same g.lastYear standard.lastYear
      fun hn => hv (Option.map_eq_none_iff.2 hn)
    rw [part, this.value_eq hl hl', part]

/-- A refusal if something holds, and a value if it does not. -/
structure RefusesIf {α : Type} (x : Except Fault α) (p : Prop) : Prop where
  refused : p → ∃ r, x = .error (.refused r)
  settled : ¬ p → ∃ a, x = .ok a

namespace RefusesIf
variable {α β : Type} {p q : Prop}

theorem ok (a : α) (h : ¬ p) : RefusesIf (.ok a) p :=
  ⟨fun hp => absurd hp h, fun _ => ⟨a, rfl⟩⟩

theorem refuse (r : Refusal) (h : p) : RefusesIf (Settings.refuse r : Except Fault α) p :=
  ⟨fun _ => ⟨r, rfl⟩, fun hp => absurd h hp⟩

theorem refused_iff {x : Except Fault α} (h : RefusesIf x p) :
    (∃ r, x = .error (.refused r)) ↔ p := by
  refine ⟨fun ⟨r, hr⟩ => ?_, h.refused⟩
  by_contra hp
  obtain ⟨a, ha⟩ := h.settled hp
  cases hr.symm.trans ha

theorem congr {x : Except Fault α} (h : RefusesIf x p) (hpq : p ↔ q) : RefusesIf x q :=
  ⟨fun hq => h.refused (hpq.2 hq), fun hq => h.settled fun hp => hq (hpq.1 hp)⟩

theorem bind {x : Except Fault α} {k : α → Except Fault β} (hx : RefusesIf x p)
    (hk : ∀ a, RefusesIf (k a) q) : RefusesIf (x >>= k) (p ∨ q) := by
  by_cases hp : p
  · obtain ⟨r, rfl⟩ := hx.refused hp
    exact ⟨fun _ => ⟨r, rfl⟩, fun h => absurd (.inl hp) h⟩
  · obtain ⟨a, rfl⟩ := hx.settled hp
    exact ⟨fun h => (hk a).refused (h.resolve_left hp), fun h => (hk a).settled fun hq => h (.inr hq)⟩

end RefusesIf

theorem boolean?_eq_none_iff {t : List Char} :
    boolean? t = none ↔ Setting.finishOnce.Misreads t := by
  have hall : ∀ w ∈ Setting.booleanWords, w.toList.all (IsPlain ·) = true := by decide
  have hplain {w : String} (hw : w ∈ Setting.booleanWords) : ∀ a ∈ w.toList, IsPlain a := by
    simpa using hall w hw
  have hword {w : String} (hw : w ∈ Setting.booleanWords) :
      String.ofList (lower t) = w ↔ t.map Char.toLower = w.toList := by
    rw [← lower_eq_iff (hplain hw), ← String.toList_inj, String.toList_ofList]
  have hmem : String.ofList (lower t) ∉ Setting.booleanWords ↔ Setting.finishOnce.Misreads t := by
    constructor
    · intro h w hw he
      exact h ((hword hw).2 he ▸ hw)
    · intro h hm
      exact h _ hm ((hword hm).1 rfl)
  rw [← hmem, boolean?, Setting.booleanWords, List.mem_append, not_or]
  simp only [List.contains_iff_mem]
  split
  · rename_i h
    exact iff_of_false nofun fun hn => hn.1 h
  split
  · rename_i h
    exact iff_of_false nofun fun hn => hn.2 h
  · rename_i hyes hno
    exact iff_of_true rfl ⟨hyes, hno⟩

theorem trimmed?_eq_some_iff {env : Environment} {n : String} {t : List Char} :
    trimmed? env n = some t ↔ ∃ s, env n = some s ∧ ¬ Blanks s.toList ∧ trim s.toList = t := by
  rw [trimmed?, Option.filter_eq_some_iff, Option.map_eq_some_iff]
  constructor
  · rintro ⟨⟨s, hs, rfl⟩, h⟩
    exact ⟨s, hs, by simpa [trim_eq_nil_iff] using h, rfl⟩
  · rintro ⟨s, hs, h, rfl⟩
    exact ⟨⟨s, hs, rfl⟩, by simpa [trim_eq_nil_iff] using h⟩

theorem garbles_iff {g : Given} {env : Environment} {x : Setting} : Garbles g env x ↔
    g.part x = none ∧ ∃ t, trimmed? env (g.variable x.name) = some t ∧ x.Misreads t := by
  simp only [Garbles, trimmed?_eq_some_iff]
  constructor
  · rintro ⟨hg, s, hs, hb, hm⟩
    exact ⟨hg, _, ⟨s, hs, hb, rfl⟩, hm⟩
  · rintro ⟨hg, _, ⟨s, hs, hb, rfl⟩, hm⟩
    exact ⟨hg, s, hs, hb, hm⟩

section
variable {g : Given} {env : Environment} {x : Setting}

theorem not_garbles_of_given {v : Value} (h : g.part x = some v) : ¬ Garbles g env x := by
  rintro ⟨hg, -⟩
  cases h.symm.trans hg

theorem not_garbles_of_blank (h : trimmed? env (g.variable x.name) = none) :
    ¬ Garbles g env x := by
  rw [garbles_iff, h]
  rintro ⟨-, t, ⟨⟩, -⟩

theorem garbles_iff_misreads {t : List Char} (hg : g.part x = none)
    (ht : trimmed? env (g.variable x.name) = some t) : Garbles g env x ↔ x.Misreads t := by
  simp [garbles_iff, hg, ht]

end

section
variable (g : Given) (env : Environment)

theorem resolveSeparator_refuses :
    RefusesIf (resolveSeparator g env) (g.separator = some "") := by
  unfold resolveSeparator
  split
  · rename_i s hs
    rw [hs, Option.some.injEq]
    split
    · rename_i he
      exact .refuse _ (by simpa using he)
    · rename_i he
      exact .ok _ (by simpa using he)
  · rename_i hs
    exact .ok _ (by simp [hs])

theorem resolveBooleans_refuses (h : g.HasTokens) : RefusesIf (resolveBooleans g env) False := by
  refine ⟨False.elim, fun _ => ?_⟩
  unfold resolveBooleans
  cases hb : g.booleans with
  | none => exact ⟨_, rfl⟩
  | some v =>
    obtain ⟨items, hitems, hw⟩ := h v hb
    obtain ⟨ts, hts⟩ := exists_mapM_ok fun w hm => (hw w hm).plain
    have hv : memberTexts v = .ok ts := by
      rw [memberTexts, hitems]
      exact hts
    dsimp only
    rw [hv]
    exact ⟨_, rfl⟩

theorem resolveFinishOnce_refuses :
    RefusesIf (resolveFinishOnce g env) (Garbles g env .finishOnce) := by
  unfold resolveFinishOnce
  split
  · rename_i v hv
    exact .ok v (not_garbles_of_given hv)
  · rename_i ht
    exact .ok _ (not_garbles_of_blank ht)
  · rename_i t hg ht
    have hiff : Garbles g env .finishOnce ↔ _ := garbles_iff_misreads hg ht
    rw [hiff, ← boolean?_eq_none_iff]
    split
    · rename_i b hb
      exact .ok _ (by simp [hb])
    · rename_i hb
      exact .refuse _ hb

theorem resolveYear_refuses {x : Setting} {given : Option Int} (default : Int)
    (hg : g.part x = given.map .int) (hx : ∀ t, x.Misreads t ↔ readInteger? t = none) :
    RefusesIf (resolveYear g env given x.name default) (Garbles g env x) := by
  unfold resolveYear
  split
  · exact .ok _ (not_garbles_of_given hg)
  · rename_i ht
    exact .ok default (not_garbles_of_blank ht)
  · rename_i t ht
    rw [garbles_iff_misreads hg ht, hx]
    split
    · rename_i n hn
      exact .ok n (by simp [hn])
    · rename_i hn
      exact .refuse _ hn

theorem resolve_refuses (h : g.HasTokens) :
    RefusesIf (resolve g env) (g.separator = some "" ∨ ∃ x, Garbles g env x) := by
  have hfirst := resolveYear_refuses g env (x := .firstYear) standard.firstYear rfl fun _ => Iff.rfl
  have hlast := resolveYear_refuses g env (x := .lastYear) standard.lastYear rfl fun _ => Iff.rfl
  have hall := (resolveSeparator_refuses g env).bind fun separator =>
    (resolveBooleans_refuses g env h).bind fun booleans =>
      (resolveFinishOnce_refuses g env).bind fun finishOnce => hfirst.bind fun first =>
        hlast.bind fun last => RefusesIf.ok (⟨separator, booleans, finishOnce, first, last⟩ : Settings)
          not_false
  refine hall.congr (or_congr Iff.rfl ⟨?_, ?_⟩)
  · rintro (h | h | h | h | h)
    · exact h.elim
    · exact ⟨_, h⟩
    · exact ⟨_, h⟩
    · exact ⟨_, h⟩
    · exact h.elim
  · rintro ⟨x, hx⟩
    cases x with
    | separator => exact absurd hx fun ⟨_, _, _, _, h⟩ => h
    | booleans => exact absurd hx fun ⟨_, _, _, _, h⟩ => h
    | finishOnce => exact .inr (.inl hx)
    | firstYear => exact .inr (.inr (.inl hx))
    | lastYear => exact .inr (.inr (.inr (.inl hx)))

end

/-- Settings depend on what is given and on the variables of what is not, and each of them on what is
given for it or on its own variable. Where the tokens that are given can be written, settings are
refused if the separator that is given is empty or a variable that is looked up says something that
its setting cannot be, and settled if not. -/
theorem settings_by_precedence (g : Given) :
    (∀ env env', (∀ x, g.part x = none → env (g.variable x.name) = env' (g.variable x.name)) →
      resolve g env = resolve g env') ∧
    (∀ g' env env' s s' x, g.part x = g'.part x →
      (g.part x = none → env (g.variable x.name) = env' (g'.variable x.name)) →
      resolve g env = .ok s → resolve g' env' = .ok s' → s.part x = s'.part x) ∧
    (g.HasTokens → ∀ env,
      ((∃ r, resolve g env = .error (.refused r)) ↔
        g.separator = some "" ∨ ∃ x, Garbles g env x) ∧
      ((∃ r, resolve g env = .error (.refused r)) ∨ ∃ s, resolve g env = .ok s)) := by
  refine ⟨fun env env' h => resolve_congr h, fun g' env env' s s' x hg hv h h' => part_congr hg hv h h',
    fun ht env => ?_⟩
  have h := resolve_refuses g env ht
  refine ⟨h.refused_iff, ?_⟩
  by_cases hp : g.separator = some "" ∨ ∃ x, Garbles g env x
  · exact .inl (h.refused hp)
  · exact .inr (h.settled hp)

theorem settings_by_precedence_year :
    let given : Given := { booleans := some (.list [.text "yes"]), firstYear := some 2000 }
    let bare : Given := { booleans := given.booleans }
    let env : Environment := fun n =>
      if n = "REQUEST_VALIDATOR_CRON_MIN_YEAR" then some " soon" else none
    resolve given env = resolve given (fun _ => none) ∧
    (∀ s s', resolve given env = .ok s → resolve bare (fun _ => none) = .ok s' →
      s.lastYear = s'.lastYear) ∧
    ∃ r, resolve bare env = .error (.refused r) := by
  intro given bare env
  obtain ⟨hsame, hpart, -⟩ := settings_by_precedence given
  have htokens : bare.HasTokens := by
    rintro v ⟨⟩
    exact ⟨_, rfl, by simp [Value.IsWritable, HasLong, Value.integers]⟩
  refine ⟨hsame env _ fun x hx => ?_, fun s s' h h' => ?_, ?_⟩
  · cases x with
    | firstYear => cases hx
    | _ => exact if_neg (by decide)
  · exact Value.int.inj (hpart bare env _ s s' .lastYear rfl (fun _ => if_neg (by decide)) h h')
  · have hsoon : readInteger? (trim " soon".toList) = none := by decide
    refine ((settings_by_precedence bare).2.2 htokens env).1.2 (.inr ⟨.firstYear, rfl, " soon", ?_⟩)
    exact ⟨if_pos (by decide), by decide, hsoon⟩

end Settings
end Scrutiny
