import Scrutiny.Proofs.Decimal.Quantity
import Scrutiny.Value.Equal

/-!
# What equality of values looks at

Two values are equal if they are built in the same way and agree in their leaves: lists and tuples
item by item, dictionaries key by key. Numbers agree if they are the same number, and nothing else is
asked of them, so that equality does not see of what kind a number is. An undefined number agrees
with nothing, but inside a collection it agrees with itself, one object being looked at no further.
Other leaves agree only with leaves of their kind.
-/

set_option autoImplicit false

namespace Scrutiny

inductive Decimal.Equals : Decimal → Decimal → Prop
  | finite {n m : Bool} {c d : Nat} {e f : Int}
      (h : (finite n c e).toRat = (finite m d f).toRat) : Equals (finite n c e) (finite m d f)
  | infinite (n : Bool) : Equals (infinite n) (infinite n)

theorem Calendar.Moment.compare?_eq_some_eq {m n : Calendar.Moment} :
    m.compare? n = some .eq ↔ m.isAware = n.isAware ∧ m.instant = n.instant := by
  unfold Calendar.Moment.compare?
  by_cases h : m.isAware = n.isAware <;> simp [h]

namespace Value

theorem equalNumbers_eq_ok_true {x y : Decimal} :
    equalNumbers x y = .ok true ↔ x.Equals y := by
  constructor
  · intro h
    unfold equalNumbers at h
    split at h
    · cases h
    · have ho : x.compare? y = some .eq := beq_iff_eq.1 (Except.ok.inj h)
      cases x with
      | finite n c e =>
        cases y with
        | finite m d f =>
          obtain ⟨o, hc, hv⟩ := Decimal.compare?_compares n m c d e f
          obtain rfl : o = .eq := Option.some.inj (hc.symm.trans ho)
          exact .finite hv
        | infinite m => cases m <;> cases ho
        | undefined => cases ho
      | infinite n =>
        cases y with
        | finite m d f => cases n <;> cases ho
        | infinite m =>
          obtain rfl : n = m := by cases n <;> cases m <;> first | rfl | cases ho
          exact .infinite n
        | undefined => cases ho
      | undefined => cases ho
  · intro h
    cases h with
    | @finite n m c d e f h =>
      obtain ⟨o, hc, hv⟩ := Decimal.compare?_compares n m c d e f
      have ho : o = .eq := hv.eq_eq.2 h
      simp [equalNumbers, Decimal.isSignaling, hc, ho]
    | infinite n => cases n <;> rfl

variable {a b x y : Value}

theorem isOneObject_iff : a.isOneObject b = true ↔ a.isUndefined = true ∧ a = b := by
  constructor
  · intro h
    unfold isOneObject at h
    split at h
    · obtain rfl := beq_iff_eq.1 h
      exact ⟨rfl, rfl⟩
    · have heq := beq_iff_eq.1 h
      exact ⟨rfl, congrArg Value.decimal heq⟩
    · cases h
  · rintro ⟨h, rfl⟩
    unfold isUndefined at h
    split at h
    · exact beq_self_eq_true _
    · exact beq_self_eq_true _
    · cases h

theorem equalWithin_eq_ok_true :
    a.equalWithin b = .ok true ↔ (a.isUndefined = true ∧ a = b) ∨ a.equal b = .ok true := by
  rw [equalWithin, orOne, ← isOneObject_iff]
  by_cases h : a.isOneObject b <;> simp [h]

theorem equalItems_cons (as bs : List Value) : equalItems (a :: as) (b :: bs) =
    (do if ← a.equalWithin b then equalItems as bs else return false) := by
  rw [equalItems]
  rfl

theorem subset_cons (as bs : List Value) : subset (a :: as) bs =
    (do if ← bs.anyM (equalWithin a) then subset as bs else return false) := by
  rw [subset, equalsSome]
  rfl

theorem equalEntries_cons (k v : Value) (es bs : List (Value × Value)) :
    equalEntries ((k, v) :: es) bs = (do
      match ← bs.findM? fun b => k.equalWithin b.1 with
      | some b => if ← v.equalWithin b.2 then equalEntries es bs else return false
      | none => return false) := by
  rw [equalEntries]
  rfl

/-- Lists, tuples and dictionaries hold values in places; all else is a leaf. -/
def IsLeaf : Value → Prop
  | .list _ => False
  | .tuple _ => False
  | .dict _ => False
  | _ => True

/-- Leaves that equality does not tell apart. Only numbers may differ in kind. -/
inductive SameLeaf : Value → Value → Prop
  | null : SameLeaf .null .null
  | text (s : String) : SameLeaf (.text s) (.text s)
  | bytes (bs : List UInt8) : SameLeaf (.bytes bs) (.bytes bs)
  | date (d : Calendar.Date) : SameLeaf (.date d) (.date d)
  | moment {m n : Calendar.Moment} (ha : m.isAware = n.isAware) (hi : m.instant = n.instant) :
      SameLeaf (.moment m) (.moment n)
  | number {a b : Value} {x y : Decimal} (ha : a.number? = some x) (hb : b.number? = some y)
      (h : x.Equals y) : SameLeaf a b
  | undefined {a : Value} (h : a.isUndefined = true) : SameLeaf a a

theorem isLeaf_of_number {d : Decimal} (h : a.number? = some d) : a.IsLeaf := by
  cases a with
  | list items => cases h
  | tuple items => cases h
  | dict entries => cases h
  | _ => trivial

theorem equal_number {d : Decimal} (h : a.number? = some d) : a.equal b =
    match b.number? with
    | some y => equalNumbers d y
    | none => .ok false := by
  cases a with
  | bool t => cases h; cases b <;> simp [equal, number?]
  | int n => cases h; cases b <;> simp [equal, number?]
  | real x => cases h; cases b <;> simp [equal, number?]
  | decimal d => cases h; cases b <;> simp [equal, number?]
  | _ => cases h

theorem number_of_isUndefined (h : a.isUndefined = true) :
    ∃ n s p k, a.number? = some (.undefined n s p k) := by
  unfold isUndefined at h
  split at h
  · exact ⟨_, _, _, _, rfl⟩
  · exact ⟨_, _, _, _, rfl⟩
  · cases h

theorem isLeaf_of_isUndefined (h : a.isUndefined = true) : a.IsLeaf := by
  obtain ⟨n, s, p, k, hn⟩ := number_of_isUndefined h
  exact isLeaf_of_number hn

theorem SameLeaf.isLeaf (h : SameLeaf a b) : a.IsLeaf ∧ b.IsLeaf := by
  cases h with
  | number ha hb => exact ⟨isLeaf_of_number ha, isLeaf_of_number hb⟩
  | undefined h => exact ⟨isLeaf_of_isUndefined h, isLeaf_of_isUndefined h⟩
  | _ => exact ⟨trivial, trivial⟩

theorem SameLeaf.of_equal_number {d : Decimal} (ha : a.number? = some d)
    (h : a.equal b = .ok true) : SameLeaf a b := by
  rw [equal_number ha] at h
  split at h
  · rename_i y hb
    exact .number ha hb (equalNumbers_eq_ok_true.1 h)
  · cases h

theorem not_isUndefined_of_equal (h : a.equal b = .ok true) : a.isUndefined = false := by
  by_contra hu
  obtain ⟨n, s, p, k, hn⟩ := number_of_isUndefined (Bool.eq_true_of_not_eq_false hu)
  rw [equal_number hn] at h
  split at h
  · cases equalNumbers_eq_ok_true.1 h
  · cases h

theorem SameLeaf.of_equal (ha : a.IsLeaf) (hs : a.setItems? = none) (h : a.equal b = .ok true) :
    SameLeaf a b := by
  cases a with
  | null =>
    cases b with
    | null => exact .null
    | _ => simp [equal, number?] at h
  | text s =>
    cases b with
    | text t =>
      simp only [equal, Except.ok.injEq, beq_iff_eq] at h
      subst h
      exact .text s
    | _ => simp [equal, number?] at h
  | bytes bs =>
    cases b with
    | bytes cs =>
      simp only [equal, Except.ok.injEq, beq_iff_eq] at h
      subst h
      exact .bytes bs
    | _ => simp [equal, number?] at h
  | date d =>
    cases b with
    | date e =>
      simp only [equal, Except.ok.injEq, beq_iff_eq] at h
      subst h
      exact .date d
    | _ => simp [equal, number?] at h
  | moment m =>
    cases b with
    | moment n =>
      simp only [equal, Except.ok.injEq, beq_iff_eq] at h
      obtain ⟨ha, hi⟩ := Calendar.Moment.compare?_eq_some_eq.1 h
      exact .moment ha hi
    | _ => simp [equal, number?] at h
  | list items => cases ha
  | tuple items => cases ha
  | dict entries => cases ha
  | set items => cases hs
  | frozenset items => cases hs
  | _ => exact .of_equal_number rfl h

theorem SameLeaf.equalWithin (h : SameLeaf a b) : a.equalWithin b = .ok true := by
  rw [equalWithin_eq_ok_true]
  cases h with
  | null => simp [Value.equal]
  | text s => simp [Value.equal]
  | bytes bs => simp [Value.equal]
  | date d => simp [Value.equal]
  | moment ha hi => simp [Value.equal, Calendar.Moment.compare?_eq_some_eq.2 ⟨ha, hi⟩]
  | number ha hb h =>
    right
    rw [equal_number ha, hb]
    exact equalNumbers_eq_ok_true.2 h
  | undefined h => exact .inl ⟨h, rfl⟩

theorem SameLeaf.kind_eq_or (h : SameLeaf a b) :
    a.kind = b.kind ∨ a.number?.isSome ∧ b.number?.isSome := by
  cases h with
  | number ha hb => exact .inr ⟨by rw [ha]; rfl, by rw [hb]; rfl⟩
  | _ => exact .inl rfl

mutual

/-- Two values of one shape, with a relation between the leaves at corresponding places: lists and
tuples item by item, dictionaries by entries that have corresponding keys. -/
inductive Corresponds (R : Value → Value → Prop) : Value → Value → Prop
  | leaf {a b : Value} (ha : a.IsLeaf) (hb : b.IsLeaf) (h : R a b) : Corresponds R a b
  | list {as bs : List Value} (h : ItemsCorrespond R as bs) :
      Corresponds R (.list as) (.list bs)
  | tuple {as bs : List Value} (h : ItemsCorrespond R as bs) :
      Corresponds R (.tuple as) (.tuple bs)
  | dict {as bs : List (Value × Value)} (hl : as.length = bs.length)
      (h : EntriesCorrespond R as bs) : Corresponds R (.dict as) (.dict bs)

inductive ItemsCorrespond (R : Value → Value → Prop) : List Value → List Value → Prop
  | nil : ItemsCorrespond R [] []
  | cons {a b : Value} {as bs : List Value} (h : Corresponds R a b)
      (hs : ItemsCorrespond R as bs) : ItemsCorrespond R (a :: as) (b :: bs)

inductive EntriesCorrespond (R : Value → Value → Prop) :
    List (Value × Value) → List (Value × Value) → Prop
  | nil (bs : List (Value × Value)) : EntriesCorrespond R [] bs
  | cons {k v : Value} {e : Value × Value} {es bs : List (Value × Value)} (he : e ∈ bs)
      (hk : Corresponds R k e.1) (hv : Corresponds R v e.2) (hs : EntriesCorrespond R es bs) :
      EntriesCorrespond R ((k, v) :: es) bs

end

mutual

def parts : Value → List Value
  | .list items => .list items :: partsOfAll items
  | .tuple items => .tuple items :: partsOfAll items
  | .dict entries => .dict entries :: partsOfEntries entries
  | v => [v]

def partsOfAll : List Value → List Value
  | [] => []
  | v :: vs => parts v ++ partsOfAll vs

def partsOfEntries : List (Value × Value) → List Value
  | [] => []
  | (k, v) :: es => parts k ++ parts v ++ partsOfEntries es

end

theorem mem_parts_self (v : Value) : v ∈ v.parts := by
  cases v <;> simp [parts]

theorem parts_subset_of_mem {e : Value × Value} {es : List (Value × Value)} (h : e ∈ es) :
    e.1.parts ⊆ partsOfEntries es ∧ e.2.parts ⊆ partsOfEntries es := by
  induction es with
  | nil => cases h
  | cons d es ih =>
    rw [partsOfEntries]
    rcases List.mem_cons.1 h with rfl | h
    · constructor <;> intro x hx <;> simp [hx]
    · have hd := List.subset_append_right (d.1.parts ++ d.2.parts) (partsOfEntries es)
      exact ⟨List.Subset.trans (ih h).1 hd, List.Subset.trans (ih h).2 hd⟩

section
variable {R S : Value → Value → Prop}

mutual

theorem Corresponds.mono {a b : Value} (h : Corresponds R a b)
    (hRS : ∀ x ∈ a.parts, ∀ y ∈ b.parts, R x y → S x y) : Corresponds S a b := by
  cases h with
  | leaf ha hb h => exact .leaf ha hb (hRS a a.mem_parts_self b b.mem_parts_self h)
  | list h =>
    apply Corresponds.list
    apply h.mono
    intro x hx y hy
    exact hRS x (List.mem_cons_of_mem _ hx) y (List.mem_cons_of_mem _ hy)
  | tuple h =>
    apply Corresponds.tuple
    apply h.mono
    intro x hx y hy
    exact hRS x (List.mem_cons_of_mem _ hx) y (List.mem_cons_of_mem _ hy)
  | dict hl h =>
    apply Corresponds.dict hl
    apply h.mono
    intro x hx y hy
    exact hRS x (List.mem_cons_of_mem _ hx) y (List.mem_cons_of_mem _ hy)

theorem ItemsCorrespond.mono {as bs : List Value} (h : ItemsCorrespond R as bs)
    (hRS : ∀ x ∈ partsOfAll as, ∀ y ∈ partsOfAll bs, R x y → S x y) :
    ItemsCorrespond S as bs := by
  cases h with
  | nil => exact .nil
  | cons h hs =>
    apply ItemsCorrespond.cons
    · apply h.mono
      intro x hx y hy
      exact hRS x (List.mem_append_left _ hx) y (List.mem_append_left _ hy)
    · apply hs.mono
      intro x hx y hy
      exact hRS x (List.mem_append_right _ hx) y (List.mem_append_right _ hy)

theorem EntriesCorrespond.mono {es bs : List (Value × Value)} (h : EntriesCorrespond R es bs)
    (hRS : ∀ x ∈ partsOfEntries es, ∀ y ∈ partsOfEntries bs, R x y → S x y) :
    EntriesCorrespond S es bs := by
  cases h with
  | nil bs => exact .nil bs
  | @cons k v e es bs he hk hv hs =>
    have hin := parts_subset_of_mem he
    apply EntriesCorrespond.cons he
    · apply hk.mono
      intro x hx y hy
      exact hRS x (by simp [partsOfEntries, hx]) y (hin.1 hy)
    · apply hv.mono
      intro x hx y hy
      exact hRS x (by simp [partsOfEntries, hx]) y (hin.2 hy)
    · apply hs.mono
      intro x hx y hy
      exact hRS x (by simp [partsOfEntries, hx]) y hy

end

end

theorem mem_of_findM? {p : Value × Value → Except Fault Bool} {es : List (Value × Value)}
    {e : Value × Value} (h : es.findM? p = .ok (some e)) : e ∈ es ∧ p e = .ok true := by
  induction es with
  | nil => cases h
  | cons d es ih =>
    obtain ⟨found, hd, h⟩ := ok_of_bind h
    cases found with
    | true =>
      obtain rfl := Option.some.inj (Except.ok.inj h)
      exact ⟨List.mem_cons_self, hd⟩
    | false =>
      obtain ⟨he, hp⟩ := ih h
      exact ⟨List.mem_cons_of_mem d he, hp⟩

def HasNoSet (v : Value) : Prop := ∀ x ∈ v.parts, x.setItems? = none

theorem Corresponds.of_equalWithin (h : a.equalWithin b = .ok true)
    (hequal : a.equal b = .ok true → Corresponds SameLeaf a b) : Corresponds SameLeaf a b := by
  rcases equalWithin_eq_ok_true.1 h with ⟨hu, rfl⟩ | h
  · exact .leaf (isLeaf_of_isUndefined hu) (isLeaf_of_isUndefined hu) (.undefined hu)
  · exact hequal h

mutual

theorem corresponds_of_equal (a b : Value) (hs : a.HasNoSet) (h : a.equal b = .ok true) :
    Corresponds SameLeaf a b := by
  have hleaf (ha : a.IsLeaf) : Corresponds SameLeaf a b := by
    have hsame := SameLeaf.of_equal ha (hs a a.mem_parts_self) h
    exact .leaf ha hsame.isLeaf.2 hsame
  cases a with
  | list as =>
    cases b with
    | list bs =>
      rw [equal] at h
      split at h
      · apply Corresponds.list
        exact itemsCorrespond_of_equal as bs (fun x hx => hs x (List.mem_cons_of_mem _ hx)) h
      · cases h
    | _ => simp [equal, number?] at h
  | tuple as =>
    cases b with
    | tuple bs =>
      rw [equal] at h
      apply Corresponds.tuple
      exact itemsCorrespond_of_equal as bs (fun x hx => hs x (List.mem_cons_of_mem _ hx)) h
    | _ => simp [equal, number?] at h
  | dict as =>
    cases b with
    | dict bs =>
      rw [equal] at h
      split at h
      · rename_i hl
        apply Corresponds.dict hl
        exact entriesCorrespond_of_equal as bs (fun x hx => hs x (List.mem_cons_of_mem _ hx)) h
      · cases h
    | _ => simp [equal, number?] at h
  | _ => exact hleaf trivial

theorem itemsCorrespond_of_equal (as bs : List Value)
    (hs : ∀ x ∈ partsOfAll as, x.setItems? = none) (h : equalItems as bs = .ok true) :
    ItemsCorrespond SameLeaf as bs := by
  cases as with
  | nil =>
    cases bs with
    | nil => exact .nil
    | cons b bs => simp [equalItems] at h
  | cons a as =>
    cases bs with
    | nil => simp [equalItems] at h
    | cons b bs =>
      rw [equalItems_cons] at h
      obtain ⟨same, hsame, h⟩ := ok_of_bind h
      cases same with
      | true =>
        apply ItemsCorrespond.cons
        · apply Corresponds.of_equalWithin hsame
          exact corresponds_of_equal a b fun x hx => hs x (List.mem_append_left _ hx)
        · exact itemsCorrespond_of_equal as bs (fun x hx => hs x (List.mem_append_right _ hx)) h
      | false => cases h

theorem entriesCorrespond_of_equal (es bs : List (Value × Value))
    (hs : ∀ x ∈ partsOfEntries es, x.setItems? = none) (h : equalEntries es bs = .ok true) :
    EntriesCorrespond SameLeaf es bs := by
  match es with
  | [] => exact .nil bs
  | (k, v) :: es =>
    rw [equalEntries_cons] at h
    obtain ⟨found, hfound, h⟩ := ok_of_bind h
    cases found with
    | none => cases h
    | some e =>
      obtain ⟨he, hk⟩ := mem_of_findM? hfound
      obtain ⟨same, hsame, h⟩ := ok_of_bind h
      cases same with
      | true =>
        apply EntriesCorrespond.cons he
        · apply Corresponds.of_equalWithin hk
          exact corresponds_of_equal k e.1 fun x hx => hs x (by simp [partsOfEntries, hx])
        · apply Corresponds.of_equalWithin hsame
          exact corresponds_of_equal v e.2 fun x hx => hs x (by simp [partsOfEntries, hx])
        · exact entriesCorrespond_of_equal es bs
            (fun x hx => hs x (by simp [partsOfEntries, hx])) h
      | false => cases h

end

/-- A key that equals one of the keys differs from all before it. -/
def AreApart (es : List (Value × Value)) : Prop :=
  es.Pairwise fun e e' =>
    ∀ k : Value, k.equalWithin e'.1 = .ok true → k.equalWithin e.1 = .ok false

/-- The keys of every dictionary in a value are apart. -/
def HasKeysApart (v : Value) : Prop := ∀ es, .dict es ∈ v.parts → AreApart es

theorem findM?_of_mem {k : Value} {es : List (Value × Value)} {e : Value × Value}
    (ha : AreApart es) (he : e ∈ es) (h : k.equalWithin e.1 = .ok true) :
    es.findM? (fun d => k.equalWithin d.1) = .ok (some e) := by
  induction es with
  | nil => cases he
  | cons d es ih =>
    rw [AreApart, List.pairwise_cons] at ha
    rw [List.findM?]
    rcases List.mem_cons.1 he with rfl | he
    · rw [h]
      rfl
    · rw [ha.1 e he k h]
      exact ih ha.2 he

theorem ItemsCorrespond.length_eq {R : Value → Value → Prop} {as bs : List Value}
    (h : ItemsCorrespond R as bs) : as.length = bs.length := by
  induction as generalizing bs with
  | nil =>
    cases h
    rfl
  | cons a as ih =>
    cases h with
    | cons h hs => rw [List.length_cons, List.length_cons, ih hs]

mutual

theorem Corresponds.equalWithin {a b : Value} (h : Corresponds SameLeaf a b)
    (hk : b.HasKeysApart) : a.equalWithin b = .ok true := by
  cases h with
  | leaf ha hb h => exact h.equalWithin
  | list h =>
    rw [equalWithin_eq_ok_true, Value.equal, if_pos h.length_eq]
    exact .inr (h.equal fun es hes => hk es (List.mem_cons_of_mem _ hes))
  | tuple h =>
    rw [equalWithin_eq_ok_true, Value.equal]
    exact .inr (h.equal fun es hes => hk es (List.mem_cons_of_mem _ hes))
  | @dict as bs hl h =>
    rw [equalWithin_eq_ok_true, Value.equal, if_pos hl]
    have hentries := h.equal (hk bs List.mem_cons_self) fun es hes =>
      hk es (List.mem_cons_of_mem _ hes)
    exact .inr hentries

theorem ItemsCorrespond.equal {as bs : List Value} (h : ItemsCorrespond SameLeaf as bs)
    (hk : ∀ es, .dict es ∈ partsOfAll bs → AreApart es) : equalItems as bs = .ok true := by
  cases h with
  | nil => rw [equalItems]
  | cons h hs =>
    have hfirst := h.equalWithin fun es hes => hk es (List.mem_append_left _ hes)
    have hrest := hs.equal fun es hes => hk es (List.mem_append_right _ hes)
    rw [equalItems_cons, hfirst]
    exact hrest

theorem EntriesCorrespond.equal {es bs : List (Value × Value)}
    (h : EntriesCorrespond SameLeaf es bs) (ha : AreApart bs)
    (hk : ∀ es, .dict es ∈ partsOfEntries bs → AreApart es) :
    equalEntries es bs = .ok true := by
  cases h with
  | nil bs => rw [equalEntries]
  | @cons k v e es bs he hkey hvalue hs =>
    have hin := parts_subset_of_mem he
    have hfound := findM?_of_mem ha he (hkey.equalWithin fun es hes => hk es (hin.1 hes))
    have hsame := hvalue.equalWithin fun es hes => hk es (hin.2 hes)
    have hrest := hs.equal ha hk
    rw [equalEntries_cons, hfound]
    change (do if ← v.equalWithin e.2 then equalEntries es bs else return false) = _
    rw [hsame]
    exact hrest

end

theorem Corresponds.equal (h : Corresponds SameLeaf a b) (hk : b.HasKeysApart)
    (hu : a.isUndefined = false) : a.equal b = .ok true := by
  rcases equalWithin_eq_ok_true.1 (h.equalWithin hk) with ⟨hundefined, -⟩ | h
  · exact absurd (hu.symm.trans hundefined) Bool.false_ne_true
  · exact h

end Value

end Scrutiny
