import Scrutiny.Proofs.Rule.Label

/-!
# The place of a missing value

The violation of a missing value tells which value is missing: its code and the parameter that it
reports give back the resource, the parameter, and the part and index if it was missing from a list.
Points join the names in a code, so the resource and the parameter must hold none; the part may
hold points and brackets, since all that stands around it is known. A missing resource reads as
the name that stands for it. A missing parameter does not: the code has that name for it, and the
reported parameter an empty one.
-/

set_option autoImplicit false

namespace Scrutiny

open Text

def Undotted (name : Option String) : Prop := ∀ s, name = some s → '.' ∉ s.toList

theorem Undotted.not_mem_nameText {name : Option String} (h : Undotted name) :
    '.' ∉ (nameText name).toList := by
  cases name with
  | none => decide
  | some s => exact h s rfl

namespace Focus

def codeEnd (f : Focus) (suffix : String) : List Char :=
  match f.named? with
  | some p => p.part.toList ++ '.' :: suffix.toList
  | none => suffix.toList

theorem elementCode_toList (f : Focus) (suffix : String) :
    (f.elementCode suffix).toList = codeStart.toList ++ '.' :: ((nameText f.resource).toList ++
      '.' :: ((nameText f.field).toList ++ '.' :: f.codeEnd suffix)) := by
  unfold elementCode codeEnd
  cases f.named? with
  | none => simp [fieldCode, dotted]
  | some p => simp [dotted]

theorem placedName_toList (f : Focus) :
    f.placedName.toList = (f.field.getD "").toList ++ f.placeText := by
  rw [placedName, String.toList_append, String.toList_ofList]

variable {f g : Focus}

theorem names_of_elementCode {suffix : String} (hr : Undotted f.resource)
    (hr' : Undotted g.resource) (hn : Undotted f.field) (hn' : Undotted g.field)
    (h : f.elementCode suffix = g.elementCode suffix) :
    nameText f.resource = nameText g.resource ∧ nameText f.field = nameText g.field ∧
      f.codeEnd suffix = g.codeEnd suffix := by
  have ht := congrArg String.toList h
  rw [elementCode_toList, elementCode_toList] at ht
  have hc := (List.cons.inj (List.append_cancel_left ht)).2
  obtain ⟨hres, hc⟩ := append_separator_inj hr.not_mem_nameText hr'.not_mem_nameText hc
  obtain ⟨hname, hc⟩ := append_separator_inj hn.not_mem_nameText hn'.not_mem_nameText hc
  exact ⟨String.toList_inj.1 hres, String.toList_inj.1 hname, hc⟩

theorem part_of_codeEnd {suffix : String} (h : f.codeEnd suffix = g.codeEnd suffix) :
    f.named?.map Position.part = g.named?.map Position.part := by
  unfold codeEnd at h
  have hl := congrArg List.length h
  cases hf : f.named? with
  | none =>
    cases hg : g.named? with
    | none => rfl
    | some q =>
      simp only [hf, hg, List.length_append, List.length_cons] at hl
      omega
  | some p =>
    cases hg : g.named? with
    | none =>
      simp only [hf, hg, List.length_append, List.length_cons] at hl
      omega
    | some q =>
      simp only [hf, hg] at h
      have hp := String.toList_inj.1 (List.append_cancel_right h)
      rw [Option.map_some, Option.map_some, hp]

/-- A place in a list begins with a bracket, so that it is not taken for a name. -/
theorem bracket_of_placeText {c : Char} {r : List Char} (h : f.placeText = c :: r) : c = '[' := by
  unfold placeText at h
  split at h
  · exact (List.cons.inj h).1.symm
  · cases h

theorem missing_of_placedName (hf : f.field = none) (hg : nameText g.field = "null")
    (h : f.placedName = g.placedName) : g.field = none := by
  cases hs : g.field with
  | none => rfl
  | some s =>
    rw [hs] at hg
    obtain rfl : s = "null" := hg
    have ht := congrArg String.toList h
    rw [placedName_toList, placedName_toList, hf, hs] at ht
    exact absurd (bracket_of_placeText ht) (by decide)

theorem field_of_placedName (hn : nameText f.field = nameText g.field)
    (h : f.placedName = g.placedName) : f.field = g.field := by
  cases hf : f.field with
  | none =>
    have hg : nameText g.field = "null" := by rw [← hn, hf]; rfl
    exact (missing_of_placedName hf hg h).symm
  | some s =>
    cases hg : g.field with
    | none =>
      have hs : nameText f.field = "null" := by rw [hn, hg]; rfl
      rw [missing_of_placedName hg hs h.symm] at hf
      cases hf
    | some t =>
      rw [hf, hg] at hn
      exact congrArg some hn

theorem placeText_of_placedName (hn : f.field = g.field)
    (h : f.placedName = g.placedName) : f.placeText = g.placeText := by
  have ht := congrArg String.toList h
  rw [placedName_toList, placedName_toList, hn] at ht
  exact List.append_cancel_left ht

theorem named_of_placeText (hp : f.named?.map Position.part = g.named?.map Position.part)
    (h : f.placeText = g.placeText) : f.named? = g.named? := by
  unfold placeText at h
  cases hf : f.named? with
  | none =>
    cases hg : g.named? with
    | none => rfl
    | some q =>
      rw [hf, hg] at hp
      cases hp
  | some p =>
    cases hg : g.named? with
    | none =>
      rw [hf, hg] at hp
      cases hp
    | some q =>
      obtain ⟨part, index⟩ := p
      obtain ⟨part', index'⟩ := q
      rw [hf, hg] at hp
      obtain rfl : part = part' := Option.some.inj hp
      simp only [hf, hg] at h
      have hi := integerText_injective (List.append_cancel_right (List.cons.inj h).2)
      rw [hi]

end Focus

/-- Violations of missing values with one code and one reported parameter are of one place. -/
theorem place_of_missing (checkers : Checkers) (r q : Rule) (f g : Focus) (e d : ErrorRecord)
    (hr : r.namesPlace = true) (hq : q.namesPlace = true)
    (hf : Undotted f.resource ∧ Undotted f.field) (hg : Undotted g.resource ∧ Undotted g.field)
    (he : r.judge checkers f = .ok (some e)) (hd : q.judge checkers g = .ok (some d))
    (hc : e.code = d.code) (hn : e.field = d.field) :
    nameText f.resource = nameText g.resource ∧ f.field = g.field ∧ f.named? = g.named? := by
  obtain ⟨hec, hen⟩ := Rule.mandatory_bears checkers hr f e he
  obtain ⟨hdc, hdn⟩ := Rule.mandatory_bears checkers hq g d hd
  have hcode : f.elementCode "cannot.be.blank" = g.elementCode "cannot.be.blank" :=
    Value.text.inj (hec.symm.trans (hc.trans hdc))
  have hname : f.placedName = g.placedName :=
    Value.text.inj (hen.symm.trans (hn.trans hdn))
  obtain ⟨hres, hfield, hend⟩ := Focus.names_of_elementCode hf.1 hg.1 hf.2 hg.2 hcode
  have hsame := Focus.field_of_placedName hfield hname
  have hplace := Focus.placeText_of_placedName hsame hname
  exact ⟨hres, hsame, Focus.named_of_placeText (Focus.part_of_codeEnd hend) hplace⟩

theorem place_of_missing_part :
    let checkers : Checkers := fun _ _ => .ok .valid
    let place : Option Position := some ⟨"a.cannot.be.blank][0", -3⟩
    let f : Focus := { field := some "charges", position := place }
    let g : Focus := { resource := some "null", field := some "charges", position := place,
                       value := .text " " }
    ∃ e d, Rule.judge checkers f (.required .present) = .ok (some e) ∧
      Rule.judge checkers g (.required .nonBlank) = .ok (some d) ∧
      e.code = d.code ∧ e.field = d.field ∧
      nameText f.resource = nameText g.resource ∧ f.field = g.field ∧ f.named? = g.named? := by
  intro checkers place f g
  have undotted : ∀ s : String, '.' ∉ s.toList → Undotted (some s) := by
    intro s hs t ht
    cases ht
    exact hs
  have hcharges := undotted "charges" (by decide)
  have hnull := undotted "null" (by decide)
  have hnone : Undotted none := fun s h => nomatch h
  refine ⟨_, _, rfl, rfl, rfl, rfl, ?_⟩
  exact place_of_missing checkers (.required .present) (.required .nonBlank) f g _ _ rfl rfl
    ⟨hnone, hcharges⟩ ⟨hnull, hcharges⟩ rfl rfl rfl rfl

end Scrutiny
