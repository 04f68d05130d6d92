import Scrutiny.Value.Reading

/-!
# Values that cannot be written

Writing a value fails for one reason, and always for that reason: somewhere in it is an integer with
more digits than an integer may have as text. What is to be told of a value that cannot be read is
written too, so that a value which is neither readable nor writable gets no refusal. Digits that are
read are held to the same limit.
-/

set_option autoImplicit false

namespace Scrutiny

open Text

/-- Whatever goes wrong is one of the faults. -/
def FailsBy {α : Type} (x : Except Fault α) (faults : Fault → Prop) : Prop :=
  ∀ e, x = .error e → faults e

section
variable {α β : Type} {x : Except Fault α} {P Q : Fault → Prop}

theorem failsBy_ok (a : α) : FailsBy (.ok a) P := by
  intro e h
  cases h

theorem failsBy_error {e : Fault} (h : P e) : FailsBy (.error e : Except Fault α) P := by
  intro e' h'
  cases h'
  exact h

theorem FailsBy.mono (h : FailsBy x P) (hpq : ∀ e, P e → Q e) : FailsBy x Q :=
  fun e he => hpq e (h e he)

theorem failsBy_bind {k : α → Except Fault β} (hx : FailsBy x P)
    (hk : ∀ a, x = .ok a → FailsBy (k a) P) : FailsBy (x >>= k) P := by
  cases x with
  | error f => exact failsBy_error (hx f rfl)
  | ok a => exact hk a rfl

theorem failsBy_map {f : α → β} (hx : FailsBy x P) : FailsBy (x.map f) P := by
  cases x with
  | error e => exact failsBy_error (hx e rfl)
  | ok a => exact failsBy_ok (f a)

theorem failsBy_ite {c : Prop} [Decidable c] {y : Except Fault α} (hx : c → FailsBy x P)
    (hy : ¬ c → FailsBy y P) : FailsBy (if c then x else y) P := by
  split
  case isTrue h => exact hx h
  case isFalse h => exact hy h

end

/-- An integer with more digits than can be written. -/
def IsLong (n : Int) : Prop := digitLimit < (naturalText n.natAbs).length

instance (n : Int) : Decidable (IsLong n) :=
  inferInstanceAs (Decidable (digitLimit < (naturalText n.natAbs).length))

theorem lt_length_tenTo (k : Nat) : k < (naturalText (tenTo k)).length := by
  cases k with
  | zero => exact Nat.length_toDigits_pos
  | succ k =>
    refine Nat.lt_of_not_le fun h => Nat.lt_irrefl (tenTo (k + 1)) ?_
    exact (Nat.length_toDigits_le_iff (by decide) k.succ_pos).1 h

theorem isLong_tenTo : IsLong (tenTo digitLimit : Nat) := by
  rw [IsLong, Int.natAbs_natCast]
  exact lt_length_tenTo digitLimit

def HasLong (ns : List Int) : Prop := ∃ n ∈ ns, IsLong n

theorem HasLong.mono {ms ns : List Int} (h : HasLong ms) (hs : ms ⊆ ns) : HasLong ns := by
  obtain ⟨n, hn, hl⟩ := h
  exact ⟨n, hs hn, hl⟩

theorem hasLong_append {ms ns : List Int} : HasLong (ms ++ ns) ↔ HasLong ms ∨ HasLong ns := by
  simp [HasLong, or_and_right, exists_or]

def Unwritable (ns : List Int) (e : Fault) : Prop := e = .wrongValue ∧ HasLong ns

theorem Unwritable.mono {ms ns : List Int} (hs : ms ⊆ ns) (e : Fault) (h : Unwritable ms e) :
    Unwritable ns e :=
  ⟨h.1, h.2.mono hs⟩

namespace Value

mutual

def integers : Value → List Int
  | .int n => [n]
  | .list items => integersAll items
  | .tuple items => integersAll items
  | .set items => integersAll items
  | .frozenset items => integersAll items
  | .dict entries => integersOfEntries entries
  | _ => []

def integersAll : List Value → List Int
  | [] => []
  | v :: vs => integers v ++ integersAll vs

def integersOfEntries : List (Value × Value) → List Int
  | [] => []
  | (k, v) :: es => integers k ++ integers v ++ integersOfEntries es

end

theorem integer_failsBy (n : Int) : FailsBy (integer n) (Unwritable [n]) := by
  unfold integer integerText?
  split
  case h_1 => exact failsBy_ok _
  case h_2 h =>
    split at h
    · cases h
    · rename_i hn
      exact failsBy_error ⟨rfl, n, List.mem_cons_self, Nat.lt_of_not_le hn⟩

mutual

theorem shown_failsBy (v : Value) : FailsBy v.shown (Unwritable v.integers) := by
  cases v with
  | bool b => cases b <;> exact failsBy_ok _
  | int n => exact integer_failsBy n
  | list items => exact failsBy_bind (shownAll_failsBy items) fun ts _ => failsBy_ok _
  | tuple items =>
    refine failsBy_bind (shownAll_failsBy items) fun ts _ => ?_
    split <;> exact failsBy_ok _
  | set items =>
    refine failsBy_bind (shownAll_failsBy items) fun ts _ => ?_
    split <;> exact failsBy_ok _
  | frozenset items =>
    refine failsBy_bind (shownAll_failsBy items) fun ts _ => ?_
    split <;> exact failsBy_ok _
  | dict entries => exact failsBy_bind (shownEntries_failsBy entries) fun ts _ => failsBy_ok _
  | _ => exact failsBy_ok _

theorem shownAll_failsBy (vs : List Value) :
    FailsBy (shownAll vs) (Unwritable (integersAll vs)) := by
  cases vs with
  | nil => exact failsBy_ok _
  | cons v vs =>
    have hv := (shown_failsBy v).mono
      (Unwritable.mono (List.subset_append_left _ (integersAll vs)))
    have hvs := (shownAll_failsBy vs).mono
      (Unwritable.mono (List.subset_append_right (integers v) _))
    exact failsBy_bind hv fun t _ => failsBy_bind hvs fun ts _ => failsBy_ok _

theorem shownEntries_failsBy (es : List (Value × Value)) :
    FailsBy (shownEntries es) (Unwritable (integersOfEntries es)) := by
  match es with
  | [] => exact failsBy_ok _
  | (k, v) :: es =>
    have hks : integers k ⊆ integersOfEntries ((k, v) :: es) := by simp [integersOfEntries]
    have hvs : integers v ⊆ integersOfEntries ((k, v) :: es) := by simp [integersOfEntries]
    have hk := (shown_failsBy k).mono (Unwritable.mono hks)
    have hv := (shown_failsBy v).mono (Unwritable.mono hvs)
    have hes := (shownEntries_failsBy es).mono
      (Unwritable.mono (List.subset_append_right (integers k ++ integers v) _))
    exact failsBy_bind hk fun a _ => failsBy_bind hv fun b _ =>
      failsBy_bind hes fun ts _ => failsBy_ok _

end

theorem plain_failsBy (v : Value) : FailsBy v.plain (Unwritable v.integers) := by
  cases v with
  | text s => exact failsBy_ok _
  | decimal d => exact failsBy_ok _
  | date d => exact failsBy_ok _
  | moment m => exact failsBy_ok _
  | _ => exact shown_failsBy _

theorem plainText_failsBy {P : Fault → Prop} (v : Value)
    (h : HasLong v.integers → P .wrongValue) : FailsBy v.plainText P := by
  refine failsBy_map (v.plain_failsBy.mono ?_)
  rintro e ⟨rfl, hl⟩
  exact h hl

theorem wording_failsBy (v : Value) : FailsBy v.wording (Unwritable v.integers) := by
  unfold wording
  split
  case h_4 => exact plain_failsBy v
  all_goals exact failsBy_ok _

end Value

namespace Value

theorem not_isLong_of_integer {n : Int} {t : List Char} (h : integer n = .ok t) : ¬ IsLong n := by
  intro hl
  rw [integer, integerText?, if_neg (Nat.not_le.2 hl)] at h
  cases h

mutual

theorem not_hasLong_of_shown (v : Value) {t : List Char} (h : v.shown = .ok t) :
    ¬ HasLong v.integers := by
  cases v with
  | int n =>
    rintro ⟨m, hm, hl⟩
    obtain rfl := List.mem_singleton.1 hm
    exact not_isLong_of_integer h hl
  | list items =>
    obtain ⟨ts, hts, -⟩ := ok_of_bind h
    exact not_hasLong_of_shownAll items hts
  | tuple items =>
    obtain ⟨ts, hts, -⟩ := ok_of_bind h
    exact not_hasLong_of_shownAll items hts
  | set items =>
    obtain ⟨ts, hts, -⟩ := ok_of_bind h
    exact not_hasLong_of_shownAll items hts
  | frozenset items =>
    obtain ⟨ts, hts, -⟩ := ok_of_bind h
    exact not_hasLong_of_shownAll items hts
  | dict entries =>
    obtain ⟨ts, hts, -⟩ := ok_of_bind h
    exact not_hasLong_of_shownEntries entries hts
  | _ =>
    rintro ⟨n, hn, -⟩
    cases hn

theorem not_hasLong_of_shownAll (vs : List Value) {ts : List (List Char)}
    (h : shownAll vs = .ok ts) : ¬ HasLong (integersAll vs) := by
  cases vs with
  | nil =>
    rintro ⟨n, hn, -⟩
    cases hn
  | cons v vs =>
    obtain ⟨t, ht, h⟩ := ok_of_bind h
    obtain ⟨ts, hts, -⟩ := ok_of_bind h
    rw [integersAll, hasLong_append, not_or]
    exact ⟨not_hasLong_of_shown v ht, not_hasLong_of_shownAll vs hts⟩

theorem not_hasLong_of_shownEntries (es : List (Value × Value)) {ts : List (List Char)}
    (h : shownEntries es = .ok ts) : ¬ HasLong (integersOfEntries es) := by
  match es with
  | [] =>
    rintro ⟨n, hn, -⟩
    cases hn
  | (k, v) :: es =>
    obtain ⟨a, ha, h⟩ := ok_of_bind h
    obtain ⟨b, hb, h⟩ := ok_of_bind h
    obtain ⟨ts, hts, -⟩ := ok_of_bind h
    rw [integersOfEntries, hasLong_append, hasLong_append, not_or, not_or]
    exact ⟨⟨not_hasLong_of_shown k ha, not_hasLong_of_shown v hb⟩,
      not_hasLong_of_shownEntries es hts⟩

end

theorem shown_of_hasLong {v : Value} (h : HasLong v.integers) : v.shown = .error .wrongValue := by
  cases hs : v.shown with
  | ok t => exact absurd h (not_hasLong_of_shown v hs)
  | error e => rw [(shown_failsBy v e hs).1]

theorem wording_of_hasLong {v : Value} (h : HasLong v.integers) :
    v.wording = .error .wrongValue := by
  have hshown := shown_of_hasLong h
  cases v with
  | int n => exact hshown
  | list items => exact hshown
  | tuple items => exact hshown
  | set items => exact hshown
  | frozenset items => exact hshown
  | dict entries => exact hshown
  | _ =>
    obtain ⟨n, hn, -⟩ := h
    cases hn

end Value

/-- How a value can fail to be read. -/
inductive Misread (field : Option String) (v : Value) (t : Target) : Fault → Prop
  /-- The refusal tells what the value is. -/
  | refused (shown : String) (h : v.shownText = .ok shown) :
      Misread field v t (.refused (.unreadable field v shown t))
  | unwritable (h : HasLong v.integers) : Misread field v t .wrongValue
  /-- The digits of an integer, but too many of them. -/
  | endless (w : Width) (hw : t = w.target) (digits : List Char) (hd : v.wording = .ok digits)
      (hs : isSignedDigits digits = true) (hl : digitLimit < (signOf digits).2.length) :
      Misread field v t .wrongValue

namespace Value

section
variable {field : Option String} {v : Value}

theorem unreadable_of_hasLong {α : Type} {t : Target} (h : HasLong v.integers) :
    (unreadable field v t : Except Fault α) = .error .wrongValue := by
  rw [unreadable, shownText, shown_of_hasLong h]
  rfl

theorem unreadable_ne_ok {α : Type} {t : Target} {a : α} : unreadable field v t ≠ .ok a := by
  intro h
  obtain ⟨shown, -, h⟩ := ok_of_bind h
  cases h

theorem within_eq_ok {w : Width} {n m : Int} :
    within field w v n = .ok m ↔ w.holds n = true ∧ n = m := by
  unfold within
  split
  · rename_i h
    simp [h]
  · rename_i h
    simp [h, unreadable_ne_ok]

theorem finite_eq_ok {x d : Decimal} :
    finite field v x = .ok d ↔ x.isFinite = true ∧ x = d := by
  unfold finite
  split
  · rename_i h
    simp [h]
  · rename_i h
    simp [h, unreadable_ne_ok]

end

variable (field : Option String) (v : Value)

theorem misread_of_unwritable {t : Target} (e : Fault) (h : Unwritable v.integers e) :
    Misread field v t e := by
  obtain ⟨rfl, hl⟩ := h
  exact .unwritable hl

theorem unreadable_failsBy {α : Type} (t : Target) :
    FailsBy (unreadable field v t : Except Fault α) (Misread field v t) := by
  have hshown : FailsBy v.shownText (Misread field v t) :=
    failsBy_map ((shown_failsBy v).mono (misread_of_unwritable field v))
  exact failsBy_bind hshown fun shown h => failsBy_error (.refused shown h)

theorem within_failsBy (w : Width) (n : Int) :
    FailsBy (within field w v n) (Misread field v w.target) :=
  failsBy_ite (fun _ => failsBy_ok n) fun _ => unreadable_failsBy field v w.target

theorem wording_misread (t : Target) : FailsBy v.wording (Misread field v t) :=
  (wording_failsBy v).mono (misread_of_unwritable field v)

theorem signedValue_failsBy (w : Width) {digits : List Char} (hd : v.wording = .ok digits)
    (hs : isSignedDigits digits = true) :
    FailsBy (match signedValue? digits with
      | some n => within field w v n
      | none => .error .wrongValue) (Misread field v w.target) := by
  unfold signedValue?
  by_cases hl : (signOf digits).2.length ≤ digitLimit
  · rw [if_pos hl]
    exact within_failsBy field v w _
  · rw [if_neg hl]
    exact failsBy_error (.endless w rfl digits hd hs (Nat.lt_of_not_le hl))

theorem asInteger_failsBy (w : Width) :
    FailsBy (v.asInteger field w) (Misread field v w.target) := by
  unfold asInteger
  split
  · exact unreadable_failsBy field _ w.target
  · exact within_failsBy field _ w _
  · refine failsBy_bind (wording_misread field _ w.target) fun digits hd => ?_
    refine failsBy_ite (fun hs => ?_) fun _ => unreadable_failsBy field _ w.target
    exact signedValue_failsBy field _ w hd hs

theorem asInteger_of_long {s : String} (w : Width) (hs : isSignedDigits s.toList = true)
    (hl : digitLimit < (signOf s.toList).2.length) :
    (Value.text s).asInteger field w = .error .wrongValue := by
  change (if isSignedDigits s.toList = true then _ else _) = _
  rw [if_pos hs, signedValue?, if_neg (Nat.not_le.2 hl)]

/-- The one way in which reading a text as an integer ends in anything but a refusal. -/
theorem asInteger_text_wrongValue_iff (w : Width) (s : String) :
    (Value.text s).asInteger field w = .error .wrongValue ↔
      isSignedDigits s.toList = true ∧ digitLimit < (signOf s.toList).2.length := by
  constructor
  · intro h
    cases asInteger_failsBy field (.text s) w _ h with
    | unwritable hl =>
      obtain ⟨n, hn, -⟩ := hl
      cases hn
    | endless w' hw digits hd hs hl =>
      cases hd
      exact ⟨hs, hl⟩
  · rintro ⟨hs, hl⟩
    exact asInteger_of_long field w hs hl

theorem finite_failsBy (d : Decimal) :
    FailsBy (finite field v d) (Misread field v .decimal) :=
  failsBy_ite (fun _ => failsBy_ok d) fun _ => unreadable_failsBy field v .decimal

theorem asDecimal_failsBy : FailsBy (v.asDecimal field) (Misread field v .decimal) := by
  unfold asDecimal
  split
  · exact unreadable_failsBy field _ .decimal
  · exact finite_failsBy field _ _
  · exact failsBy_ok _
  · refine failsBy_bind (wording_misread field _ .decimal) fun t _ => ?_
    split
    · exact finite_failsBy field _ _
    · exact unreadable_failsBy field _ .decimal

end Value
end Scrutiny
