import Mathlib.Data.List.Forall2
import Scrutiny.Report.Reading

/-!
# Reports under names of both kinds

A field of a report is found under either of its names, and which name the other fields have makes
no difference, as no two fields share a name. So a report that is written with names for clients
or for programs, or with a name chosen for each field of each of its parts, is read as it was.
-/

set_option autoImplicit false

namespace Scrutiny.Report

namespace FieldName

def names (f : FieldName) : List String := [f.forClients, f.forPrograms]

def Apart (f g : FieldName) : Prop := ∀ name ∈ f.names, name ∉ g.names

instance (f g : FieldName) : Decidable (f.Apart g) := by
  unfold Apart
  infer_instance

theorem under_mem_names (f : FieldName) (n : Naming) : f.under n ∈ f.names := by
  cases n <;> simp [under, names]

end FieldName

section
variable {f : FieldName} {name key : String} {v : Value} {es : Entries}

theorem valueUnder?_cons_self : valueUnder? name ((.text name, v) :: es) = some v := by
  simp [valueUnder?]

theorem valueUnder?_cons_of_ne (h : key ≠ name) :
    valueUnder? name ((.text key, v) :: es) = valueUnder? name es := by
  simp [valueUnder?, h]

theorem find?_cons_of_not_mem (h : key ∉ f.names) :
    find? f ((.text key, v) :: es) = find? f es := by
  simp only [FieldName.names, List.mem_cons, List.not_mem_nil, or_false, not_or] at h
  rw [find?, find?, valueUnder?_cons_of_ne h.1, valueUnder?_cons_of_ne h.2]

theorem find?_cons_under (n : Naming) (h : find? f es = none) :
    ∃ name, find? f ((.text (f.under n), v) :: es) = some (name, v) := by
  cases n with
  | clients =>
    refine ⟨f.forClients, ?_⟩
    simp only [FieldName.under, find?, valueUnder?_cons_self]
  | programs =>
    by_cases hf : f.forPrograms = f.forClients
    · refine ⟨f.forClients, ?_⟩
      simp only [FieldName.under, hf, find?, valueUnder?_cons_self]
    · have hnone : valueUnder? f.forClients es = none := by
        cases hv : valueUnder? f.forClients es with
        | none => rfl
        | some w => simp [find?, hv] at h
      refine ⟨f.forPrograms, ?_⟩
      simp only [FieldName.under, find?, valueUnder?_cons_of_ne hf, hnone, valueUnder?_cons_self,
        Option.map_some]

end

abbrev Slot := FieldName × (Value → Prop)

def Slot.Takes (s : Slot) (e : Value × Value) : Prop :=
  (∃ n, e.1 = .text (s.1.under n)) ∧ s.2 e.2

/-- A dictionary of fields, each of which has one of its names. -/
def IsDict (slots : List Slot) (v : Value) : Prop :=
  ∃ es, v = .dict es ∧ List.Forall₂ Slot.Takes slots es

theorem find?_eq_none {f : FieldName} {slots : List Slot} {es : Entries}
    (h : List.Forall₂ Slot.Takes slots es) (hf : ∀ s ∈ slots, f.Apart s.1) :
    find? f es = none := by
  induction h with
  | nil => rfl
  | @cons s e slots es he _ ih =>
    obtain ⟨key, v⟩ := e
    obtain ⟨⟨n, rfl⟩, -⟩ := he
    rw [find?_cons_of_not_mem]
    · exact ih fun t ht => hf t (List.mem_cons_of_mem s ht)
    · intro hm
      exact hf s List.mem_cons_self _ hm (s.1.under_mem_names n)

theorem find?_of_mem {slots : List Slot} {es : Entries} (h : List.Forall₂ Slot.Takes slots es)
    (ha : (slots.map Prod.fst).Pairwise FieldName.Apart) {s : Slot} (hs : s ∈ slots) :
    ∃ name v, find? s.1 es = some (name, v) ∧ s.2 v := by
  induction h with
  | nil => cases hs
  | @cons t e slots es he hes ih =>
    obtain ⟨key, v⟩ := e
    obtain ⟨⟨n, rfl⟩, hv⟩ := he
    rw [List.map_cons, List.pairwise_cons] at ha
    rcases List.mem_cons.1 hs with rfl | hs
    · have hnone := find?_eq_none hes fun t ht => ha.1 t.1 (List.mem_map_of_mem ht)
      obtain ⟨name, hname⟩ := find?_cons_under (v := v) n hnone
      exact ⟨name, v, hname, hv⟩
    · have hne : t.1.under n ∉ s.1.names :=
        ha.1 s.1 (List.mem_map_of_mem hs) _ (t.1.under_mem_names n)
      rw [find?_cons_of_not_mem hne]
      exact ih ha.2 hs

theorem readField_slot {α : Type} {slots : List Slot} {es : Entries} {default : Option α}
    {read : List Step → Value → Checked α} {a : α} (h : List.Forall₂ Slot.Takes slots es)
    (ha : (slots.map Prod.fst).Pairwise FieldName.Apart) (place : List Step) (f : FieldName)
    (P : Value → Prop) (hs : (f, P) ∈ slots) (hread : ∀ place v, P v → read place v = .ok a) :
    readField place f default read es = .ok a := by
  obtain ⟨name, v, hf, hv⟩ := find?_of_mem h ha hs
  simp only [readField, hf]
  exact hread _ v hv

def IsList {α : Type} (P : α → Value → Prop) (as : List α) (v : Value) : Prop :=
  ∃ vs, v = .list vs ∧ List.Forall₂ P as vs

section
variable {α : Type} {P : α → Value → Prop} {read : List Step → Value → Checked α}

theorem readItems_each (hread : ∀ place a v, P a v → read place v = .ok a) {as : List α}
    {vs : List Value} (h : List.Forall₂ P as vs) (place : List Step) (first : Nat) :
    Checked.all (readItems read place first vs) = .ok as := by
  induction h generalizing first with
  | nil => rfl
  | cons hv _ ih =>
    rw [readItems, Checked.all, hread _ _ _ hv, ih]
    rfl

theorem readList_each (hread : ∀ place a v, P a v → read place v = .ok a) {as : List α}
    (place : List Step) (v : Value) (h : IsList P as v) : readList read place v = .ok as := by
  obtain ⟨vs, rfl, hvs⟩ := h
  exact readItems_each hread hvs place 0

theorem isList_map {write : α → Value} (h : ∀ a, P a (write a)) (as : List α) :
    IsList P as (.list (as.map write)) := by
  refine ⟨as.map write, rfl, ?_⟩
  rw [List.forall₂_map_right_iff, List.forall₂_same]
  exact fun a _ => h a

end

theorem isDict_dictUnder {slots : List Slot} {fields : List (FieldName × Value)} (n : Naming)
    (h : List.Forall₂ (fun s f => f.1 = s.1 ∧ s.2 f.2) slots fields) :
    IsDict slots (dictUnder n fields) := by
  refine ⟨_, rfl, ?_⟩
  rw [List.forall₂_map_right_iff]
  refine h.imp fun s f hf => ⟨⟨n, ?_⟩, hf.2⟩
  rw [hf.1]

def IsArg (arg : Value) : Value → Prop := IsDict [(Names.value, (· = arg))]

def Item.slots (i : Item) : List Slot :=
  [(Names.developerMessage, (· = .text i.developerMessage)),
    (Names.userMessage, (· = .text i.userMessage)), (Names.code, (· = .text i.code)),
    (Names.parameter, (· = .text i.parameter)), (Names.value, (· = i.value)),
    (Names.args, IsList IsArg i.args)]

/-- An item as a dictionary, with a name chosen for each field of it and of its arguments. -/
def Item.IsWritten (i : Item) : Value → Prop := IsDict i.slots

def slots (r : Report) : List Slot :=
  [(Names.developerMessage, (· = .text r.developerMessage)),
    (Names.httpStatusCode, (· = .text r.status)), (Names.userMessage, (· = .text r.userMessage)),
    (Names.code, (· = .text r.code)), (Names.errors, IsList Item.IsWritten r.errors)]

/-- A report as a dictionary, with a name chosen for each field of it and of its parts. -/
def IsWritten (r : Report) : Value → Prop := IsDict r.slots

theorem argFields_apart : [Names.value].Pairwise FieldName.Apart := by decide

theorem itemFields_apart :
    [Names.developerMessage, Names.userMessage, Names.code, Names.parameter, Names.value,
      Names.args].Pairwise FieldName.Apart := by
  decide

theorem reportFields_apart :
    [Names.developerMessage, Names.httpStatusCode, Names.userMessage, Names.code,
      Names.errors].Pairwise FieldName.Apart := by
  decide

theorem readText_eq (s : String) (place : List Step) (v : Value) (h : v = .text s) :
    readText place v = .ok s := by
  rw [h]
  rfl

theorem readAny_eq (w : Value) (place : List Step) (v : Value) (h : v = w) :
    readAny place v = .ok w := by
  rw [h]
  rfl

theorem readArg_written (place : List Step) (arg v : Value) (h : IsArg arg v) :
    readArg place v = .ok arg := by
  obtain ⟨es, rfl, hes⟩ := h
  exact readField_slot hes argFields_apart place _ _ List.mem_cons_self (readAny_eq arg)

theorem readItem_written (place : List Step) (i : Item) (v : Value) (h : i.IsWritten v) :
    readItem place v = .ok i := by
  obtain ⟨es, rfl, hes⟩ := h
  have hread {α : Type} {d : Option α} {read : List Step → Value → Checked α} {a : α}
      (f : FieldName) (P : Value → Prop) (hs : (f, P) ∈ i.slots)
      (hr : ∀ place v, P v → read place v = .ok a) : readField place f d read es = .ok a :=
    readField_slot hes itemFields_apart place f P hs hr
  have hdeveloper : textField place Names.developerMessage es = .ok i.developerMessage :=
    hread _ (· = .text i.developerMessage) (by simp [Item.slots]) (readText_eq _)
  have huser : textField place Names.userMessage es = .ok i.userMessage :=
    hread _ (· = .text i.userMessage) (by simp [Item.slots]) (readText_eq _)
  have hcode : textField place Names.code es = .ok i.code :=
    hread _ (· = .text i.code) (by simp [Item.slots]) (readText_eq _)
  have hparameter : textField place Names.parameter es = .ok i.parameter :=
    hread _ (· = .text i.parameter) (by simp [Item.slots]) (readText_eq _)
  have hvalue : readField place Names.value (some .null) readAny es = .ok i.value :=
    hread _ (· = i.value) (by simp [Item.slots]) (readAny_eq _)
  have hargs : readField place Names.args (some []) (readList readArg) es = .ok i.args :=
    hread _ (IsList IsArg i.args) (by simp [Item.slots]) (readList_each readArg_written)
  simp only [readItem, readRecord, readItemTexts, hdeveloper, huser, hcode, hparameter, hvalue,
    hargs]
  rfl

theorem readAt_written (place : List Step) (r : Report) (v : Value) (h : r.IsWritten v) :
    readAt place v = .ok r := by
  obtain ⟨es, rfl, hes⟩ := h
  have hread {α : Type} {d : Option α} {read : List Step → Value → Checked α} {a : α}
      (f : FieldName) (P : Value → Prop) (hs : (f, P) ∈ r.slots)
      (hr : ∀ place v, P v → read place v = .ok a) : readField place f d read es = .ok a :=
    readField_slot hes reportFields_apart place f P hs hr
  have hdeveloper : readField place Names.developerMessage (some standardMessage) readText es =
      .ok r.developerMessage :=
    hread _ (· = .text r.developerMessage) (by simp [slots]) (readText_eq _)
  have hstatus : readField place Names.httpStatusCode (some "400") readText es = .ok r.status :=
    hread _ (· = .text r.status) (by simp [slots]) (readText_eq _)
  have huser : textField place Names.userMessage es = .ok r.userMessage :=
    hread _ (· = .text r.userMessage) (by simp [slots]) (readText_eq _)
  have hcode : textField place Names.code es = .ok r.code :=
    hread _ (· = .text r.code) (by simp [slots]) (readText_eq _)
  have herrors : readField place Names.errors (some []) (readList readItem) es = .ok r.errors :=
    hread _ (IsList Item.IsWritten r.errors) (by simp [slots]) (readList_each readItem_written)
  simp only [readAt, readRecord, hdeveloper, hstatus, huser, hcode, herrors]
  rfl

theorem isArg_argValue (n : Naming) (arg : Value) : IsArg arg (argValue n arg) :=
  isDict_dictUnder n (.cons ⟨rfl, rfl⟩ .nil)

theorem Item.isWritten_toValue (n : Naming) (i : Item) : i.IsWritten (i.toValue n) :=
  isDict_dictUnder n (.cons ⟨rfl, rfl⟩ (.cons ⟨rfl, rfl⟩ (.cons ⟨rfl, rfl⟩ (.cons ⟨rfl, rfl⟩
    (.cons ⟨rfl, rfl⟩ (.cons ⟨rfl, isList_map (isArg_argValue n) i.args⟩ .nil))))))

theorem isWritten_toValue (n : Naming) (r : Report) : r.IsWritten (r.toValue n) :=
  isDict_dictUnder n (.cons ⟨rfl, rfl⟩ (.cons ⟨rfl, rfl⟩ (.cons ⟨rfl, rfl⟩ (.cons ⟨rfl, rfl⟩
    (.cons ⟨rfl, isList_map (Item.isWritten_toValue n) r.errors⟩ .nil)))))

theorem status_ofViolations (errors : List ErrorRecord) :
    (Failure.ofViolations errors).status.plainText = .ok "400" := by
  have hdigits : Text.integerText? 400 = some ['4', '0', '0'] := by decide
  change (Value.integer 400).map String.ofList = _
  rw [Value.integer, hdigits]
  rfl

theorem ok_of_settle {α : Type} {c : Checked α} {a : α} (h : settle c = .ok a) : c = .ok a := by
  cases c with
  | ok b =>
    cases h
    rfl
  | error ps => cases h

/-- An item has the value and the arguments of its record as they are. -/
def Item.Keeps (i : Item) (r : ErrorRecord) : Prop := i.value = r.rejected ∧ i.args = r.args

theorem Item.keeps_of_ofRecord {r : ErrorRecord} {i : Item} (h : Item.ofRecord r = .ok i) :
    i.Keeps r := by
  have hi := ok_of_settle h
  generalize hes : [(Value.text Names.developerMessage.forPrograms, r.message),
    (.text Names.userMessage.forPrograms, r.message), (.text Names.code.forPrograms, r.code),
    (.text Names.parameter.forPrograms, r.field), (.text Names.value.forPrograms, r.rejected),
    (.text Names.args.forPrograms, .list (r.args.map (argValue .programs)))] = es at hi
  have hvalue : readField [] Names.value (some .null) readAny es = .ok r.rejected := by
    rw [← hes]
    rfl
  have hargs : readField [] Names.args (some []) (readList readArg) es = .ok r.args := by
    rw [← hes]
    exact readList_each readArg_written _ _ (isList_map (isArg_argValue .programs) r.args)
  simp only [readItem, readRecord, hvalue, hargs] at hi
  cases ht : readItemTexts [] es with
  | error ps =>
    rw [ht] at hi
    cases hi
  | ok texts =>
    rw [ht] at hi
    cases hi
    exact ⟨rfl, rfl⟩

theorem keeps_of_mapM {errors : List ErrorRecord} {items : List Item}
    (h : errors.mapM Item.ofRecord = .ok items) : List.Forall₂ Item.Keeps items errors := by
  induction errors generalizing items with
  | nil =>
    cases h
    exact .nil
  | cons e errors ih =>
    rw [List.mapM_cons] at h
    obtain ⟨i, hi, h⟩ := ok_of_bind h
    obtain ⟨rest, hrest, h⟩ := ok_of_bind h
    cases h
    exact .cons (Item.keeps_of_ofRecord hi) (ih hrest)

theorem keeps_of_ofFailure {f : Failure} {errors : List ErrorRecord} {r : Report}
    (h : ofFailure f errors = .ok r) : List.Forall₂ Item.Keeps r.errors errors := by
  obtain ⟨status, -, h⟩ := ok_of_bind h
  obtain ⟨items, hitems, h⟩ := ok_of_bind h
  have hr := ok_of_settle h
  -- The texts of the failure are checked last and do not touch the items.
  cases ht : (readText [.field Names.userMessage.forPrograms] f.message).both
      (readText [.field Names.code.forPrograms] f.code) with
  | error ps =>
    rw [ht] at hr
    cases hr
  | ok texts =>
    rw [ht] at hr
    cases hr
    exact keeps_of_mapM hitems

/-- The report on a failure can be written under either kind of names, and however it is written,
with a name chosen for each field at each level, it is read as a report that is written the same
and has the value and the arguments of every record, in their order. -/
theorem read_of_isWritten (f : Failure) (errors : List ErrorRecord) (r : Report)
    (h : ofFailure f errors = .ok r) :
    (∀ n, r.IsWritten (r.toValue n)) ∧
    ∀ v, r.IsWritten v → ∃ r', read v = .ok r' ∧ (∀ n, r'.toValue n = r.toValue n) ∧
      List.Forall₂ Item.Keeps r'.errors errors := by
  refine ⟨fun n => isWritten_toValue n r, fun v hv => ⟨r, ?_, fun n => rfl, ?_⟩⟩
  · rw [read, readAt_written [] r v hv]
    rfl
  · exact keeps_of_ofFailure h

theorem read_of_isWritten_mixed :
    let record : ErrorRecord := ⟨.text "validation.msg.loan.term.too.long", .text "Too long.",
      .text "term", .int 90, [.list [.int 90], .null]⟩
    let item : Item := ⟨"Too long.", "Too long.", "validation.msg.loan.term.too.long", "term",
      .int 90, [.list [.int 90], .null]⟩
    let report : Report := ⟨standardMessage, "400", violationsMessage,
      (FailureKind.violations [record]).code, [item]⟩
    let written : Value := .dict [(.text "developerMessage", .text "Too long."),
      (.text "default_user_message", .text "Too long."),
      (.text "userMessageGlobalisationCode", .text "validation.msg.loan.term.too.long"),
      (.text "parameter_name", .text "term"), (.text "value", .int 90),
      (.text "args", .list [argValue .clients (.list [.int 90]), argValue .programs .null])]
    let mixed : Value := .dict [(.text "developer_message", .text standardMessage),
      (.text "httpStatusCode", .text "400"),
      (.text "default_user_message", .text violationsMessage),
      (.text "userMessageGlobalisationCode", .text "validation.msg.validation.errors.exist"),
      (.text "errors", .list [written])]
    ofFailure (.ofViolations [record]) [record] = .ok report ∧ report.IsWritten mixed ∧
      ∃ r', read mixed = .ok r' ∧ (∀ n, r'.toValue n = report.toValue n) ∧
        List.Forall₂ Item.Keeps r'.errors [record] := by
  intro record item report written mixed
  have hr : ofFailure (.ofViolations [record]) [record] = .ok report := by
    rw [ofFailure, status_ofViolations]
    rfl
  have hargs : IsList IsArg item.args
      (.list [argValue .clients (.list [.int 90]), argValue .programs .null]) :=
    ⟨_, rfl, .cons (isArg_argValue _ _) (.cons (isArg_argValue _ _) .nil)⟩
  have hitem : item.IsWritten written :=
    ⟨_, rfl, .cons ⟨⟨.clients, rfl⟩, rfl⟩ (.cons ⟨⟨.programs, rfl⟩, rfl⟩
      (.cons ⟨⟨.clients, rfl⟩, rfl⟩ (.cons ⟨⟨.programs, rfl⟩, rfl⟩
        (.cons ⟨⟨.clients, rfl⟩, rfl⟩ (.cons ⟨⟨.clients, rfl⟩, hargs⟩ .nil)))))⟩
  have hm : report.IsWritten mixed :=
    ⟨_, rfl, .cons ⟨⟨.programs, rfl⟩, rfl⟩ (.cons ⟨⟨.clients, rfl⟩, rfl⟩
      (.cons ⟨⟨.programs, rfl⟩, rfl⟩ (.cons ⟨⟨.clients, rfl⟩, rfl⟩
        (.cons ⟨⟨.clients, rfl⟩, _, rfl, .cons hitem .nil⟩ .nil))))⟩
  exact ⟨hr, hm, (read_of_isWritten _ _ _ hr).2 mixed hm⟩

end Scrutiny.Report
