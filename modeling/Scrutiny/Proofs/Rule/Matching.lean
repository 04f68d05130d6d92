import Scrutiny.Proofs.Rule.Overlooking
import Scrutiny.Proofs.Value.Sameness

/-!
# Values that match others

Values match if they are of one kind and equal. The kind is looked at only once, at the top, so that
a list matches a list with the same numbers of other kinds in it. Matching values are of one shape
and their leaves are of one kind each, but for numbers inside lists, tuples and dictionaries, which
only have to be the same number. Two undefined numbers never match, and inside a collection they have
to be one object. The rules that compare with another parameter and with a choice of values go by
that.
-/

set_option autoImplicit false

namespace Scrutiny

namespace Value
variable {a b : Value}

theorem same_eq_ok_true : a.same b = .ok true ↔ a.kind = b.kind ∧ a.equal b = .ok true := by
  unfold same
  by_cases h : a.kind = b.kind <;> simp [h]

/-- One shape, and leaves of one kind at corresponding places. -/
def HasKindsOf (a b : Value) : Prop := Corresponds (fun x y => x.kind = y.kind) a b

/-- All numbers in a value are of one kind. -/
def CountsBy (v : Value) (kind : String) : Prop :=
  ∀ x ∈ v.parts, x.number?.isSome = true → x.kind = kind

theorem Corresponds.hasKindsOf {kind : String} (h : Corresponds SameLeaf a b)
    (ha : a.CountsBy kind) (hb : b.CountsBy kind) : a.HasKindsOf b := by
  apply h.mono
  intro x hx y hy hxy
  rcases hxy.kind_eq_or with hk | ⟨hnx, hny⟩
  · exact hk
  · rw [ha x hx hnx, hb y hy hny]

end Value

theorem anyM_eq_ok_true {α : Type} {p : α → Except Fault Bool} {l : List α} :
    l.anyM p = .ok true ↔
      ∃ before x after, l = before ++ x :: after ∧ (∀ y ∈ before, p y = .ok false) ∧
        p x = .ok true := by
  induction l with
  | nil =>
    constructor
    · intro h
      cases h
    · rintro ⟨before, x, after, h, -⟩
      simp at h
  | cons z l ih =>
    rw [List.anyM]
    constructor
    · intro h
      obtain ⟨found, hz, h⟩ := ok_of_bind h
      cases found with
      | true => exact ⟨[], z, l, rfl, by simp, hz⟩
      | false =>
        obtain ⟨before, x, after, rfl, hb, hx⟩ := ih.1 h
        refine ⟨z :: before, x, after, rfl, ?_, hx⟩
        rw [List.forall_mem_cons]
        exact ⟨hz, hb⟩
    · rintro ⟨before, x, after, hl, hb, hx⟩
      cases before with
      | nil =>
        obtain ⟨rfl, rfl⟩ := List.cons.inj hl
        rw [hx]
        rfl
      | cons y before =>
        obtain ⟨rfl, rfl⟩ := List.cons.inj hl
        rw [List.forall_mem_cons] at hb
        rw [hb.1]
        exact ih.2 ⟨before, x, after, rfl, hb.2, hx⟩

namespace Focus
variable {f : Focus}

theorem reportLinked_ne_pass (name suffix text : String) (linked : Value) :
    f.reportLinked name suffix text linked ≠ .pass := by
  intro h
  cases h

theorem notOneOf_ne_pass (values : List Value) : f.notOneOf values ≠ .pass := by
  intro h
  obtain ⟨listed, -, h⟩ := ok_of_bind h
  cases h

end Focus

theorem Verdict.pass_iff_of_test {test : Except Fault Bool} {v : Verdict} (hv : v ≠ pass) :
    (do if ← test then pass else v) = pass ↔ test = .ok true := by
  cases test with
  | error e => exact iff_of_false (by rintro ⟨⟩) (by rintro ⟨⟩)
  | ok t =>
    cases t with
    | true => exact iff_of_true rfl rfl
    | false => exact iff_of_false hv (by rintro ⟨⟩)

section
variable {f : Focus} (hf : f.value ≠ .null)
include hf

theorem Linked.equalTo_pass_iff (name : String) (w : Value) :
    (equalTo name w).judge f = .pass ↔ f.value.same w = .ok true := by
  rw [judge, Focus.bothAbsent, Focus.skips_of_present hf, Value.isNull_of_ne hf]
  exact Verdict.pass_iff_of_test (f.reportLinked_ne_pass _ _ _ _)

theorem Choice.oneOf_pass_iff (values : List Value) :
    (oneOf values).judge f = .pass ↔
      ∃ before w after, values = before ++ w :: after ∧
        (∀ u ∈ before, f.value.same u = .ok false) ∧ f.value.same w = .ok true := by
  rw [← anyM_eq_ok_true, judge, Focus.skips_of_present hf, Value.isNull_of_ne hf]
  exact Verdict.pass_iff_of_test (Focus.notOneOf_ne_pass values)

end

/-- Values without sets that match are of one kind and of one shape, equality does not tell their
leaves apart, and they are no undefined numbers; such values match where lookups in dictionaries are
unambiguous. Where all numbers are of one kind, leaves at corresponding places have the same kind
too. A rule on equal parameters passes a value that is there if the other matches it, and a rule on
a choice if one of the values does and those before it do not. -/
theorem matching_by_shape_and_number (checkers : Checkers) (a b : Value) :
    (a.HasNoSet → a.same b = .ok true →
      a.kind = b.kind ∧ a.isUndefined = false ∧ Value.Corresponds Value.SameLeaf a b ∧
      ∀ kind, a.CountsBy kind → b.CountsBy kind → a.HasKindsOf b) ∧
    (b.HasKeysApart → a.kind = b.kind → a.isUndefined = false →
      Value.Corresponds Value.SameLeaf a b → a.same b = .ok true) ∧
    ∀ f : Focus, f.value = a → a ≠ .null →
      (∀ name, (Rule.linked (.equalTo name b)).judge checkers f = .pass ↔ a.same b = .ok true) ∧
      ∀ values, (Rule.choice (.oneOf values)).judge checkers f = .pass ↔
        ∃ before w after, values = before ++ w :: after ∧
          (∀ u ∈ before, a.same u = .ok false) ∧ a.same w = .ok true := by
  refine ⟨fun hs h => ?_, fun hk hkind hu h => ?_, ?_⟩
  · obtain ⟨hkind, heq⟩ := Value.same_eq_ok_true.1 h
    have hc := Value.corresponds_of_equal a b hs heq
    have hu := Value.not_isUndefined_of_equal heq
    exact ⟨hkind, hu, hc, fun kind ha hb => hc.hasKindsOf ha hb⟩
  · exact Value.same_eq_ok_true.2 ⟨hkind, h.equal hk hu⟩
  · rintro f rfl hf
    constructor
    · intro name
      exact Linked.equalTo_pass_iff hf name b
    · exact Choice.oneOf_pass_iff hf

theorem matching_by_shape_and_number_limits :
    let checkers : Checkers := fun _ _ => .ok .valid
    let low : Value × Value := (.text "low", .int 1)
    let high : Value × Value := (.text "high", .tuple [.int 2, .null])
    let a : Value := .dict [low, high]
    let b : Value := .dict [high, low]
    a.same b = .ok true ∧ a.HasKindsOf b ∧
    (Rule.linked (.equalTo "limits" b)).judge checkers { value := a } = .pass ∧
    (Rule.choice (.oneOf [.null, b])).judge checkers { value := a } = .pass := by
  intro checkers low high a b
  obtain ⟨hshape, hmatch, hrules⟩ := matching_by_shape_and_number checkers a b
  have hsame : Value.Corresponds Value.SameLeaf a b := by
    have hlow : Value.Corresponds Value.SameLeaf low.1 low.1 ∧
        Value.Corresponds Value.SameLeaf low.2 low.2 :=
      ⟨.leaf trivial trivial (.text _), .leaf trivial trivial (.number rfl rfl (.finite rfl))⟩
    have hhigh : Value.Corresponds Value.SameLeaf high.1 high.1 ∧
        Value.Corresponds Value.SameLeaf high.2 high.2 :=
      ⟨.leaf trivial trivial (.text _),
        .tuple (.cons (.leaf trivial trivial (.number rfl rfl (.finite rfl)))
          (.cons (.leaf trivial trivial .null) .nil))⟩
    exact .dict rfl (.cons (by simp) hlow.1 hlow.2 (.cons (by simp) hhigh.1 hhigh.2 (.nil _)))
  have hapart : b.HasKeysApart := by
    intro es hes
    obtain rfl : es = [high, low] := by
      simpa [b, low, high, Value.parts, Value.partsOfEntries, Value.partsOfAll] using hes
    refine .cons ?_ (List.pairwise_singleton _ _)
    intro e he k hk
    obtain rfl := List.mem_singleton.1 he
    obtain ⟨hu, rfl⟩ | hk := Value.equalWithin_eq_ok_true.1 hk
    · cases hu
    · cases k with
      | text s =>
        obtain rfl : s = "low" := by simpa [low, Value.equal] using hk
        simp [high, Value.equalWithin, Value.orOne, Value.isOneObject, Value.equal]
      | _ => simp [low, Value.equal, Value.equalSet, Value.setItems?, Value.number?] at hk
  have h := hmatch hapart rfl rfl hsame
  have hsets : a.HasNoSet := by
    simp [Value.HasNoSet, a, low, high, Value.parts, Value.partsOfEntries, Value.partsOfAll,
      Value.setItems?]
  have hcounts : a.CountsBy "int" ∧ b.CountsBy "int" := by
    constructor <;>
      simp [Value.CountsBy, a, b, low, high, Value.parts, Value.partsOfEntries, Value.partsOfAll,
        Value.number?, Value.kind]
  obtain ⟨hequal, hone⟩ := hrules { value := a } rfl (by simp [a])
  refine ⟨h, (hshape hsets h).2.2.2 "int" hcounts.1 hcounts.2, (hequal "limits").2 h, ?_⟩
  exact (hone [.null, b]).2 ⟨[.null], b, [], rfl, by simp [a, Value.same, Value.kind], h⟩

example : (Value.list [.real (.undefined 0)]).same (.list [.real (.undefined 0)]) = .ok true ∧
    (Value.list [.real (.undefined 0)]).same (.list [.real (.undefined 1)]) = .ok false := by cbv

/-- A list with a truth value matches a list with a one, and both rules take it. -/
theorem nested_kinds_unseen :
    let checkers : Checkers := fun _ _ => .ok .valid
    let a : Value := .list [.bool true]
    let b : Value := .list [.int 1]
    a.same b = .ok true ∧ ¬ a.HasKindsOf b ∧
    (Rule.linked (.equalTo "other" b)).judge checkers { value := a } = .pass ∧
    (Rule.choice (.oneOf [b])).judge checkers { value := a } = .pass := by
  intro checkers a b
  have hsame : a.same b = .ok true := by
    rw [Value.same_eq_ok_true]
    constructor
    · rfl
    · apply Value.Corresponds.equal
      · exact .list (.cons (.leaf trivial trivial (.number rfl rfl (.finite rfl))) .nil)
      · simp [Value.HasKeysApart, b, Value.parts, Value.partsOfAll]
      · rfl
  have hnot : ¬ (Value.list [.bool true]).HasKindsOf (.list [.int 1]) := by
    intro h
    cases h with
    | leaf ha => cases ha
    | list h =>
      cases h with
      | cons h hs =>
        cases h with
        | leaf ha hb hkind => exact absurd hkind (by decide)
  have hne : (Value.list [.bool true]) ≠ .null := by
    intro h
    cases h
  refine ⟨hsame, hnot, ?_, ?_⟩
  · exact (Linked.equalTo_pass_iff (f := { value := .list [.bool true] }) hne "other" b).2 hsame
  · apply (Choice.oneOf_pass_iff (f := { value := .list [.bool true] }) hne [b]).2
    exact ⟨[], b, [], rfl, by simp, hsame⟩

end Scrutiny
