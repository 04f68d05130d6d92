import Scrutiny.Proofs.Value.Sameness
import Scrutiny.Proofs.Value.Writing

/-!
# Values that can be compared

Comparing values for equality fails for one reason: a signaling number is met. Values without one,
at any depth, are equal or they are not; an undefined number that is quiet equals nothing, not even
itself, unless a collection finds it to be the very object that it has. The search for a value in a list then has an answer too, and the order of the list and
repetitions in it make no difference to it.
-/

set_option autoImplicit false

namespace Scrutiny

section
variable {α : Type} {P : Fault → Prop} {p : α → Except Fault Bool} {l : List α}

theorem failsBy_anyM (h : ∀ x ∈ l, FailsBy (p x) P) : FailsBy (l.anyM p) P := by
  induction l with
  | nil => exact failsBy_ok false
  | cons x l ih =>
    rw [List.forall_mem_cons] at h
    refine failsBy_bind h.1 fun found _ => ?_
    cases found with
    | true => exact failsBy_ok true
    | false => exact ih h.2

theorem failsBy_findM? (h : ∀ x ∈ l, FailsBy (p x) P) : FailsBy (l.findM? p) P := by
  induction l with
  | nil => exact failsBy_ok none
  | cons x l ih =>
    rw [List.forall_mem_cons] at h
    refine failsBy_bind h.1 fun found _ => ?_
    cases found with
    | true => exact failsBy_ok (some x)
    | false => exact ih h.2

theorem anyM_decides (h : ∀ x ∈ l, ∃ b, p x = .ok b) :
    ∃ b, l.anyM p = .ok b ∧ (b = true ↔ ∃ x ∈ l, p x = .ok true) := by
  induction l with
  | nil => exact ⟨false, rfl, by simp⟩
  | cons x l ih =>
    rw [List.forall_mem_cons] at h
    obtain ⟨b, hb⟩ := h.1
    rw [List.anyM, hb]
    cases b with
    | true => exact ⟨true, rfl, by simp [hb]⟩
    | false =>
      obtain ⟨r, hr, hiff⟩ := ih h.2
      exact ⟨r, hr, by simp [hb, hiff]⟩

end

namespace Value

mutual

/-- No signaling number at any depth. -/
def IsQuiet : Value → Prop
  | .decimal d => d.isSignaling = false
  | .list items => AreQuiet items
  | .tuple items => AreQuiet items
  | .dict entries => EntriesAreQuiet entries
  | .set items => AreQuiet items
  | .frozenset items => AreQuiet items
  | _ => True

def AreQuiet : List Value → Prop
  | [] => True
  | v :: vs => IsQuiet v ∧ AreQuiet vs

def EntriesAreQuiet : List (Value × Value) → Prop
  | [] => True
  | (k, v) :: es => IsQuiet k ∧ IsQuiet v ∧ EntriesAreQuiet es

end

theorem areQuiet_iff {vs : List Value} : AreQuiet vs ↔ ∀ v ∈ vs, v.IsQuiet := by
  induction vs with
  | nil => simp [AreQuiet]
  | cons v vs ih => rw [AreQuiet, List.forall_mem_cons, ih]

theorem entriesAreQuiet_iff {es : List (Value × Value)} :
    EntriesAreQuiet es ↔ ∀ e ∈ es, e.1.IsQuiet ∧ e.2.IsQuiet := by
  induction es with
  | nil => simp [EntriesAreQuiet]
  | cons e es ih => rw [EntriesAreQuiet, List.forall_mem_cons, ih, and_assoc]

section
variable {a b : Value} {as bs : List Value} {P : Fault → Prop}

theorem IsQuiet.number {x : Decimal} (h : a.IsQuiet) (hx : a.number? = some x) :
    x.isSignaling = false := by
  cases a with
  | bool t =>
    obtain rfl := Option.some.inj hx
    rfl
  | int n =>
    obtain rfl := Option.some.inj hx
    rfl
  | real y =>
    obtain rfl := Option.some.inj hx
    cases y <;> rfl
  | decimal d =>
    obtain rfl := Option.some.inj hx
    exact h
  | _ => cases hx

theorem IsQuiet.setItems {items : List Value} (h : a.IsQuiet) (hs : a.setItems? = some items) :
    AreQuiet items := by
  cases a with
  | set items =>
    obtain rfl := Option.some.inj hs
    exact h
  | frozenset items =>
    obtain rfl := Option.some.inj hs
    exact h
  | _ => cases hs

theorem equalWithin_failsBy (h : FailsBy (a.equal b) P) : FailsBy (a.equalWithin b) P :=
  failsBy_ite (fun _ => failsBy_ok true) fun _ => h

/-- What has to be compared when two values are: the items, the entries or the members of the first
one with those of the second. -/
theorem equal_failsBy_of (ha : a.IsQuiet) (hb : b.IsQuiet)
    (hitems : ∀ as, a.listItems? = some as → ∀ bs, AreQuiet bs → FailsBy (equalItems as bs) P)
    (hentries : ∀ es, a = .dict es → ∀ bs, EntriesAreQuiet bs → FailsBy (equalEntries es bs) P)
    (hmembers : ∀ as, a.setItems? = some as → ∀ bs, AreQuiet bs → FailsBy (subset as bs) P) :
    FailsBy (a.equal b) P := by
  have hset (as : List Value) (h : ∀ bs, AreQuiet bs → FailsBy (subset as bs) P) :
      FailsBy (equalSet as b) P := by
    rw [equalSet]
    split
    · rename_i bs hs
      exact failsBy_ite (fun _ => h bs (hb.setItems hs)) fun _ => failsBy_ok false
    · exact failsBy_ok false
  unfold equal
  split
  case h_6 as bs => exact failsBy_ite (fun _ => hitems as rfl bs hb) fun _ => failsBy_ok false
  case h_7 as bs => exact hitems as rfl bs hb
  case h_8 as bs => exact failsBy_ite (fun _ => hentries as rfl bs hb) fun _ => failsBy_ok false
  case h_9 as => exact hset as (hmembers as rfl)
  case h_10 as => exact hset as (hmembers as rfl)
  case h_11 =>
    split
    · rename_i x y hx hy
      rw [equalNumbers, ha.number hx, hb.number hy]
      exact failsBy_ok _
    · exact failsBy_ok false
  all_goals exact failsBy_ok _

mutual

theorem equal_failsBy (a b : Value) (ha : a.IsQuiet) (hb : b.IsQuiet) : FailsBy (a.equal b) P := by
  cases a with
  | list as =>
    refine equal_failsBy_of ha hb (fun cs hc bs hbs => ?_) nofun nofun
    rw [← Option.some.inj hc]
    exact equalItems_failsBy as bs ha hbs
  | tuple as =>
    refine equal_failsBy_of ha hb (fun cs hc bs hbs => ?_) nofun nofun
    rw [← Option.some.inj hc]
    exact equalItems_failsBy as bs ha hbs
  | dict es =>
    refine equal_failsBy_of ha hb nofun (fun cs hc bs hbs => ?_) nofun
    rw [← Value.dict.inj hc]
    exact equalEntries_failsBy es bs ha hbs
  | set as =>
    refine equal_failsBy_of ha hb nofun nofun fun cs hc bs hbs => ?_
    rw [← Option.some.inj hc]
    exact subset_failsBy as bs ha hbs
  | frozenset as =>
    refine equal_failsBy_of ha hb nofun nofun fun cs hc bs hbs => ?_
    rw [← Option.some.inj hc]
    exact subset_failsBy as bs ha hbs
  | _ => exact equal_failsBy_of ha hb nofun nofun nofun
termination_by structural a

theorem equalItems_failsBy (as bs : List Value) (ha : AreQuiet as) (hb : AreQuiet bs) :
    FailsBy (equalItems as bs) P := by
  match as, bs with
  | [], [] => simpa [equalItems] using failsBy_ok true
  | [], _ :: _ => simpa [equalItems] using failsBy_ok false
  | _ :: _, [] => simpa [equalItems] using failsBy_ok false
  | a :: as, b :: bs =>
    rw [equalItems_cons]
    refine failsBy_bind (equalWithin_failsBy (equal_failsBy a b ha.1 hb.1)) fun same _ => ?_
    exact failsBy_ite (fun _ => equalItems_failsBy as bs ha.2 hb.2) fun _ => failsBy_ok false
termination_by structural as

theorem subset_failsBy (as bs : List Value) (ha : AreQuiet as) (hb : AreQuiet bs) :
    FailsBy (subset as bs) P := by
  match as with
  | [] => simpa [subset] using failsBy_ok true
  | a :: as =>
    rw [subset_cons]
    have hsome : FailsBy (bs.anyM a.equalWithin) P :=
      failsBy_anyM fun b hm => equalWithin_failsBy (equal_failsBy a b ha.1 (areQuiet_iff.1 hb b hm))
    refine failsBy_bind hsome fun found _ => ?_
    exact failsBy_ite (fun _ => subset_failsBy as bs ha.2 hb) fun _ => failsBy_ok false
termination_by structural as

theorem equalEntries_failsBy (es bs : List (Value × Value)) (ha : EntriesAreQuiet es)
    (hb : EntriesAreQuiet bs) : FailsBy (equalEntries es bs) P := by
  match es with
  | [] => simpa [equalEntries] using failsBy_ok true
  | (k, v) :: es =>
    rw [equalEntries_cons]
    have hq := entriesAreQuiet_iff.1 hb
    have hkeys : FailsBy (bs.findM? fun b => k.equalWithin b.1) P :=
      failsBy_findM? fun b hm => equalWithin_failsBy (equal_failsBy k b.1 ha.1 (hq b hm).1)
    refine failsBy_bind hkeys fun found hfound => ?_
    cases found with
    | none => exact failsBy_ok false
    | some b =>
      have hm := (mem_of_findM? hfound).1
      have hvalues := equalWithin_failsBy (equal_failsBy v b.2 ha.2.1 (hq b hm).2)
      refine failsBy_bind hvalues fun same _ => ?_
      exact failsBy_ite (fun _ => equalEntries_failsBy es bs ha.2.2 hb) fun _ => failsBy_ok false
termination_by structural es

end

end

end Value
end Scrutiny
