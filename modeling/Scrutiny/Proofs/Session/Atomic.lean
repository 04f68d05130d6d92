import Scrutiny.Proofs.Session.Growth

/-!
# Steps that fail leave no trace

A step that fails leaves the session as it was, but for one kind: the end of a context that has
found violations marks the context as finished. The mark commutes with every step, and only a
further end of the same context looks at it. So whatever is done after a failure gives the answers
that it would have given without it, that one end excepted.
-/

set_option autoImplicit false

namespace Scrutiny

def Context.marked (c : Context) : Context := { c with finished := true }

namespace Session

def marked (s : Session) (n : Nat) : Session :=
  { s with contexts := s.contexts.modify n Context.marked }

def mark (n m : Nat) (c : Context) : Context := if n = m then c.marked else c

theorem ext_context? {a b : Session} (hb : a.libraries = b.libraries) (hl : a.ledgers = b.ledgers)
    (hs : a.substitutes = b.substitutes) (hc : ∀ m, a.context? m = b.context? m) : a = b := by
  obtain ⟨ba, la, ca, sa⟩ := a
  obtain ⟨bb, lb, cb, sb⟩ := b
  obtain rfl : ca = cb := List.ext_getElem? hc
  simp only at hb hl hs
  rw [hb, hl, hs]

theorem marked_context? (s : Session) (n m : Nat) :
    (s.marked n).context? m = (s.context? m).map (mark n m) := by
  rw [context?, marked, List.getElem?_modify]
  rfl

theorem marked_of_finished {s : Session} {n : Nat} {c : Context} (h : s.context? n = some c)
    (hc : c.finished = true) : s.marked n = s := by
  have hm : c.marked = c := by
    rw [Context.marked, ← hc]
  refine ext_context? rfl rfl rfl fun m => ?_
  rw [marked_context?]
  by_cases hn : n = m
  · subst m
    simp [h, mark, hm]
  · have hi : mark n m = id := funext fun e => if_neg hn
    rw [hi, Option.map_id, id]

theorem marked_marked (s : Session) (n : Nat) : (s.marked n).marked n = s.marked n := by
  rw [marked, marked, List.modify_modify_eq]
  rfl

theorem setContext_marked (s : Session) (n m : Nat) (c : Context) :
    (s.marked n).setContext m (mark n m c) = (s.setContext m c).marked n := by
  refine ext_context? rfl rfl rfl fun k => ?_
  simp only [setContext_context?, marked_context?]
  by_cases hk : m = k
  · subst k
    simp [Function.comp_def]
  · simp [hk]

theorem append_contexts_marked (s : Session) {n : Nat} {d : Context} (h : s.context? n = some d)
    (extra : List Context) :
    { s.marked n with contexts := (s.marked n).contexts ++ extra } =
      marked { s with contexts := s.contexts ++ extra } n := by
  obtain ⟨hn, -⟩ := List.getElem?_eq_some_iff.mp h
  simp only [marked]
  congr 1
  apply List.ext_getElem?
  intro k
  simp only [List.getElem?_append, List.getElem?_modify, List.length_modify]
  by_cases hk : k < s.contexts.length
  · simp [hk]
  · have hne : n ≠ k := by omega
    simp [hk, hne]

theorem changeFocus_marked (s : Session) (n m : Nat) (c : Context) (ch : Focus.Change) :
    (s.marked n).changeFocus m (mark n m c) ch =
      { s.changeFocus m c ch with session := (s.changeFocus m c ch).session.marked n } := by
  have hf : (mark n m c).focus = c.focus := by
    unfold mark
    split <;> rfl
  cases h : c.focus.change ch with
  | ok f =>
    have hm : { mark n m c with focus := f } = mark n m { c with focus := f } := by
      unfold mark
      split <;> rfl
    rw [changeFocus_ok h, changeFocus_ok (hf ▸ h), hm, still, still, setContext_marked]
  | error e => rw [changeFocus_error h, changeFocus_error (hf ▸ h), refusing, refusing]

theorem judge_marked (s : Session) (n : Nat) (c : Context) (b : Bool) (q : Inquiry) :
    (s.marked n).judge { c with finished := b } q =
      { s.judge c q with session := (s.judge c q).session.marked n } := by
  have ha : (s.marked n).asking { c with finished := b } (c.question? q) =
      (s.asking c (c.question? q)).marked n := by
    cases c.question? q with
    | none => rfl
    | some p =>
      simp only [asking, ask]
      cases c.examiner p.1 <;> rfl
  have hq : Context.question? { c with finished := b } q = c.question? q := rfl
  have hv : (s.marked n).verdict { c with finished := b } q = s.verdict c q := rfl
  rw [judge_eq, judge_eq, hq, hv, ha]
  rfl

theorem restart_marked {s : Session} {n : Nat} {d : Context} (h : s.context? n = some d)
    (c : Context) (b : Bool) :
    (s.marked n).restart { c with finished := b } =
      { s.restart c with session := (s.restart c).session.marked n } := by
  simp only [restart]
  rw [append_contexts_marked s h]

theorem merge_marked (s : Session) (n : Nat) (c other : Context) (b b' : Bool) :
    (s.marked n).merge { c with finished := b } { other with finished := b' } =
      { s.merge c other with session := (s.merge c other).session.marked n } := by
  simp only [merge]
  split <;> rfl

theorem finish_marked (s : Session) {n m : Nat} (hne : n ≠ m) (c : Context) :
    (s.marked n).finish m c =
      { s.finish m c with session := (s.finish m c).session.marked n } := by
  have hs := setContext_marked s n m c.marked
  rw [mark, if_neg hne] at hs
  have hl : (s.marked n).ledger c.ledger = s.ledger c.ledger := rfl
  simp only [finish, hl]
  split
  · rfl
  · cases s.ledger c.ledger with
    | nil => exact congrArg still hs
    | cons e es =>
      change ({ session := (s.marked n).setContext m c.marked, notes := _, fault := _ } : Turn) = _
      rw [hs]
      rfl

theorem startContext_marked {s : Session} {n : Nat} {d : Context} (h : s.context? n = some d)
    (resource : Option String) (settings : Settings) (choice : LedgerChoice)
    (recurrence cron : Option (String → Check)) :
    (s.marked n).startContext resource settings choice recurrence cron =
      (s.startContext resource settings choice recurrence cron).marked n := by
  have hw : (s.marked n).withLedger choice =
      ((s.withLedger choice).1.marked n, s.ledgerFor choice) := by
    cases choice with
    | own => rfl
    | existing k =>
      by_cases hk : k < s.ledgers.length <;> simp [withLedger, ledgerFor, withOwnLedger, marked, hk]
  have hf : (s.marked n).ledgerFor choice = s.ledgerFor choice := by
    rw [ledgerFor, hw]
  have hsub : (s.marked n).substitutes = s.substitutes := rfl
  have he := examinersFor_congr hsub recurrence cron
  refine ext_context? ?_ ?_ ?_ fun m => ?_
  · rw [startContext_libraries]
    exact (startContext_libraries s resource settings choice recurrence cron).symm
  · rw [startContext_ledgers, hw]
    exact (startContext_ledgers s resource settings choice recurrence cron).symm
  · rw [startContext_substitutes]
    exact (startContext_substitutes s resource settings choice recurrence cron).symm
  · have hm := congrArg (fun t : Session => t.context? m) (append_contexts_marked s h
      [⟨{ resource }, settings, s.ledgerFor choice, s.examinersFor recurrence cron, false⟩])
    rw [marked_context?] at hm ⊢
    simp only [context?, startContext_contexts, hf, he] at hm ⊢
    exact hm

theorem mark_eq (n m : Nat) (c : Context) : ∃ b, mark n m c = { c with finished := b } := by
  unfold mark
  split
  · exact ⟨true, rfl⟩
  · exact ⟨c.finished, rfl⟩

theorem marked_missing {s : Session} {n m : Nat} (h : s.context? m = none) :
    (s.marked n).context? m = none := by
  rw [marked_context?, h, Option.map_none]

theorem marked_found {s : Session} {n m : Nat} {c : Context} (h : s.context? m = some c) :
    (s.marked n).context? m = some (mark n m c) := by
  rw [marked_context?, h, Option.map_some]

theorem step_marked_missing {s : Session} {st : Step} {m : Nat} (ht : st.target? = some m)
    (hm : s.context? m = none) (n : Nat) :
    (s.marked n).step st = { s.step st with session := (s.step st).session.marked n } := by
  rw [step_missing ht hm, step_missing ht (marked_missing hm), still, still]

/-- A step on a session with a mark is the step without it, and then the mark. -/
theorem step_marked {s : Session} {n : Nat} {d : Context} (h : s.context? n = some d)
    {st : Step} (hst : st ≠ .finish n) :
    (s.marked n).step st = { s.step st with session := (s.step st).session.marked n } := by
  cases st with
  | start resource settings choice recurrence cron =>
    exact congrArg still (startContext_marked h resource settings choice recurrence cron)
  | change m ch =>
    cases hm : s.context? m with
    | none => exact step_marked_missing rfl hm n
    | some c => rw [step_change hm, step_change (marked_found hm), changeFocus_marked]
  | judge m q =>
    cases hm : s.context? m with
    | none => exact step_marked_missing rfl hm n
    | some c =>
      obtain ⟨b, hb⟩ := mark_eq n m c
      rw [step_judge hm, step_judge (marked_found hm), hb, judge_marked]
  | restart m =>
    cases hm : s.context? m with
    | none => exact step_marked_missing rfl hm n
    | some c =>
      obtain ⟨b, hb⟩ := mark_eq n m c
      rw [step_restart hm, step_restart (marked_found hm), hb, restart_marked h]
  | merge m k =>
    cases hm : s.context? m with
    | none => exact step_marked_missing rfl hm n
    | some c =>
      cases hk : s.context? k with
      | none =>
        rw [step_merge_missing hk, step_merge_missing (marked_missing hk), still, still]
      | some other =>
        obtain ⟨b, hb⟩ := mark_eq n m c
        obtain ⟨b', hb'⟩ := mark_eq n k other
        rw [step_merge hm hk, step_merge (marked_found hm) (marked_found hk), hb, hb',
          merge_marked]
  | finish m =>
    have hne : n ≠ m := fun e => hst (by rw [e])
    cases hm : s.context? m with
    | none => exact step_marked_missing rfl hm n
    | some c =>
      rw [step_finish hm, step_finish (marked_found hm), mark, if_neg hne, finish_marked s hne]

theorem step_finish_session (s : Session) (n : Nat) :
    (s.step (.finish n)).session = s.marked n := by
  cases h : s.context? n with
  | none =>
    have hn : s.contexts.length ≤ n := List.getElem?_eq_none_iff.mp h
    rw [step_missing rfl h, still, marked, List.modify_eq_self hn]
  | some c =>
    rw [step_finish h]
    cases hc : c.isClosed with
    | true =>
      have hf : c.finished = true := by
        rw [Context.isClosed, Bool.and_eq_true] at hc
        exact hc.1
      rw [finish_closed hc, refusing, marked_of_finished h hf]
    | false =>
      rw [finish_session hc]
      refine ext_context? rfl rfl rfl fun m => ?_
      rw [setContext_context?, marked_context?]
      by_cases hm : n = m
      · subst m
        simp [h, mark, Context.marked]
      · have hi : mark n m = id := funext fun e => if_neg hm
        rw [if_neg hm, hi, Option.map_id, id]

theorem step_session_marked {s : Session} {n : Nat} {d : Context} (h : s.context? n = some d)
    (st : Step) : ((s.marked n).step st).session = (s.step st).session.marked n := by
  by_cases hst : st = .finish n
  · rw [hst, step_finish_session, step_finish_session]
  · rw [step_marked h hst]

theorem run_marked {s : Session} {n : Nat} {d : Context} (h : s.context? n = some d)
    (steps : List Step) : (s.marked n).run steps = (s.run steps).marked n := by
  induction steps generalizing s d with
  | nil => rfl
  | cons st steps ih =>
    obtain ⟨f, b, h'⟩ := (step_moves s st).context h
    rw [run_cons, run_cons, step_session_marked h, ih h']

/-- Once the end of a context is among the steps, a mark set before makes no difference. -/
theorem run_marked_of_mem {s : Session} {n : Nat} {d : Context} (h : s.context? n = some d)
    {steps : List Step} (hm : Step.finish n ∈ steps) : (s.run steps).marked n = s.run steps := by
  obtain ⟨before, after, rfl⟩ := List.append_of_mem hm
  obtain ⟨f, b, hc⟩ := run_context h before
  rw [run_append, run_cons, step_finish_session, run_marked hc, marked_marked]

theorem schedule_verdict_fault (f : Focus) (t : String) (a : Check) (r : Schedule) :
    (r.verdict f t a).fault? = none := by
  cases r with
  | recurrence rule =>
    simp only [Schedule.verdict]
    split <;> rfl
  | cron =>
    simp only [Schedule.verdict]
    split <;> rfl

theorem examine_substitute (s : Session) (settings : Settings) (k : Nat) (form : ScheduleForm)
    (t : String) : ∃ a, s.examine settings (.substitute k) form t = .ok a := by
  simp only [examine]
  split
  · exact ⟨_, rfl⟩
  · exact ⟨_, rfl⟩

theorem asking_of_fault {s : Session} {c : Context} {q : Inquiry}
    (h : (s.verdict c q).fault? ≠ none) : s.asking c (c.question? q) = s := by
  cases hr : q.completed c.settings with
  | schedule r =>
    simp only [verdict, Context.question?, hr, Rule.judge, Rule.question, Schedule.judge] at h ⊢
    cases hq : r.question c.focus with
    | error e => rfl
    | ok o =>
      cases o with
      | none => rfl
      | some t =>
        cases he : c.examiner r.form with
        | real => simp [asking, ask, he, Except.toOption, bind, Except.bind, pure, Except.pure]
        | substitute k =>
          obtain ⟨a, ha⟩ := examine_substitute s c.settings k r.form t
          refine absurd ?_ h
          simp only [hq, checkers, he, ha, bind, Except.bind]
          exact schedule_verdict_fault c.focus t a r
  | _ => simp [Context.question?, hr, Rule.question, Except.toOption, asking]

theorem changeFocus_failed {s : Session} {n : Nat} {c : Context} {ch : Focus.Change}
    (h : (s.changeFocus n c ch).fault ≠ none) : (s.changeFocus n c ch).session = s := by
  cases hf : c.focus.change ch with
  | ok f =>
    rw [changeFocus_ok hf] at h
    exact absurd rfl h
  | error e => rw [changeFocus_error hf, refusing]

theorem judge_failed {s : Session} {c : Context} {q : Inquiry}
    (h : (s.judge c q).fault ≠ none) : (s.judge c q).session = s := by
  rw [judge_fault] at h
  rw [judge_session, asking_of_fault h, Verdict.records_of_fault h, append_nil]

theorem merge_failed {s : Session} {c other : Context}
    (h : (s.merge c other).fault ≠ none) : (s.merge c other).session = s := by
  by_cases hl : other.ledger = c.ledger
  · rw [merge_shared hl, refusing]
  · exact absurd (merge_fault hl) h

theorem finish_failed {s : Session} {n : Nat} {c : Context} {f : Fault}
    (h : (s.finish n c).fault = some f) :
    (s.finish n c).session = s ∨ ∃ es, f = .violations es := by
  cases hc : c.isClosed with
  | true => exact .inl (by rw [finish_closed hc, refusing])
  | false =>
    rw [finish_fault hc] at h
    by_cases he : s.ledger c.ledger = []
    · rw [if_pos he] at h
      cases h
    · rw [if_neg he] at h
      exact .inr ⟨_, (Option.some.inj h).symm⟩

theorem unchanged_of_found {s : Session} {st : Step} {n : Nat} (ht : st.target? = some n)
    (found : ∀ c, s.context? n = some c → (s.step st).session = s) : (s.step st).session = s :=
  step_elim (P := fun t => t.session = s) ht (fun _ => rfl) found

theorem step_failed {s : Session} {st : Step} {f : Fault} (h : (s.step st).fault = some f) :
    (s.step st).session = s ∨
      ∃ n c es, st = .finish n ∧ s.context? n = some c ∧ f = .violations es := by
  have hsome : (s.step st).fault ≠ none := by
    rw [h]
    exact Option.some_ne_none f
  cases st with
  | start => cases h
  | change n ch =>
    left
    refine unchanged_of_found rfl fun c hn => ?_
    rw [step_change hn] at hsome ⊢
    exact changeFocus_failed hsome
  | judge n q =>
    left
    refine unchanged_of_found rfl fun c hn => ?_
    rw [step_judge hn] at hsome ⊢
    exact judge_failed hsome
  | restart n =>
    left
    refine unchanged_of_found rfl fun c hn => ?_
    rw [step_restart hn] at h
    cases h
  | merge n k =>
    left
    refine unchanged_of_found rfl fun c hn => ?_
    cases ho : s.context? k with
    | none => rw [step_merge_missing ho, still]
    | some other =>
      rw [step_merge hn ho] at hsome ⊢
      exact merge_failed hsome
  | finish n =>
    cases hn : s.context? n with
    | none => exact .inl (by rw [step_missing rfl hn, still])
    | some c =>
      rw [step_finish hn] at h ⊢
      rcases finish_failed h with hs | ⟨es, he⟩
      · exact .inl hs
      · exact .inr ⟨n, c, es, rfl, hn, he⟩

/-- Two sessions in which callers see the same: at most the marks differ. -/
structure SameView (a b : Session) : Prop where
  ledgers : a.ledgers = b.ledgers
  focuses : ∀ n, a.focus? n = b.focus? n
  errors : ∀ n, a.errors n = b.errors n
  asked : ∀ k, a.asked k = b.asked k

theorem SameView.refl (s : Session) : SameView s s :=
  ⟨rfl, fun _ => rfl, fun _ => rfl, fun _ => rfl⟩

theorem sameView_marked (s : Session) (n : Nat) : SameView (s.marked n) s := by
  constructor
  case ledgers => rfl
  case focuses =>
    intro m
    have hf : Context.focus ∘ mark n m = Context.focus := by
      funext c
      obtain ⟨b, hb⟩ := mark_eq n m c
      simp only [Function.comp_apply, hb]
    rw [focus?, marked_context?, Option.map_map, hf, focus?]
  case errors =>
    intro m
    have hl : (fun c : Context => (s.marked n).ledger c.ledger) ∘ mark n m =
        fun c => s.ledger c.ledger := by
      funext c
      obtain ⟨b, hb⟩ := mark_eq n m c
      simp only [Function.comp_apply, hb]
      rfl
    rw [Session.errors, marked_context?, Option.map_map, hl, Session.errors]
  case asked => exact fun _ => rfl

/-- A further end of a context whose end has failed for its violations. The settings refuse it,
and nothing between the two ends the context. -/
inductive SecondEnd (s : Session) : Step → Fault → List Step → Step → Prop where
  | mk {n : Nat} {c : Context} {es : List ErrorRecord} {between : List Step}
      (found : s.context? n = some c) (once : c.settings.finishOnce.isTrue = true)
      (none : Step.finish n ∉ between) :
      SecondEnd s (.finish n) (.violations es) between (.finish n)

theorem finish_marked_self (s : Session) (n : Nat) (c : Context) (b : Bool)
    (hc : c.settings.finishOnce.isTrue = false) :
    ((s.marked n).finish n { c with finished := b }).notes = (s.finish n c).notes ∧
      ((s.marked n).finish n { c with finished := b }).fault = (s.finish n c).fault := by
  have hl : (s.marked n).ledger c.ledger = s.ledger c.ledger := rfl
  simp only [finish, hc, hl, Bool.and_false, Bool.false_eq_true, if_false]
  cases s.ledger c.ledger with
  | nil => exact ⟨rfl, rfl⟩
  | cons e es => exact ⟨rfl, rfl⟩

/-- A step that fails changes nothing that callers see, then or later. Only a context whose end
has failed for its violations may refuse to be ended again. -/
theorem failure_leaves_no_trace (s : Session) (st : Step) (f : Fault)
    (h : (s.step st).fault = some f) :
    SameView (s.step st).session s ∧ ∀ steps next,
      let after := (s.step st).session.run steps
      SameView after (s.run steps) ∧
        ((after.step next).notes = ((s.run steps).step next).notes ∧
            (after.step next).fault = ((s.run steps).step next).fault ∨
          SecondEnd s st f steps next ∧
            ∃ resource, (after.step next).fault = some (.refused (.finishedTwice resource))) := by
  rcases step_failed h with hs | ⟨n, c, es, rfl, hc, rfl⟩
  · rw [hs]
    exact ⟨.refl s, fun steps next => ⟨.refl _, .inl ⟨rfl, rfl⟩⟩⟩
  · rw [step_finish_session]
    refine ⟨sameView_marked s n, fun steps next => ?_⟩
    simp only [run_marked hc]
    refine ⟨sameView_marked _ n, ?_⟩
    obtain ⟨g, b, hc'⟩ := run_context hc steps
    by_cases hm : Step.finish n ∈ steps
    · rw [run_marked_of_mem hc hm]
      exact .inl ⟨rfl, rfl⟩
    by_cases hn : next = .finish n
    · subst next
      have hmark : mark n n { c with focus := g, finished := b } =
          { c with focus := g, finished := true } := if_pos rfl
      rw [step_finish (marked_found hc'), step_finish hc', hmark]
      cases ho : c.settings.finishOnce.isTrue with
      | false => exact .inl (finish_marked_self (s.run steps) n ⟨g, _, _, _, b⟩ true ho)
      | true =>
        have hclosed : Context.isClosed { c with focus := g, finished := true } = true := ho
        rw [finish_closed hclosed]
        exact .inr ⟨⟨hc, ho, hm⟩, g.resource, rfl⟩
    · rw [step_marked hc' hn]
      exact .inl ⟨rfl, rfl⟩

theorem violations_leave_no_trace :
    let e : ErrorRecord := ⟨.text "code", .text "message", .text "field", .null, []⟩
    let s := run (initial .lenient [[e]]) [.start none {} (.existing 0) none none]
    (s.step (.finish 0)).fault = some (.violations [e]) ∧
      SameView (s.step (.finish 0)).session s :=
  ⟨rfl, (failure_leaves_no_trace _ _ _ rfl).1⟩

end Session
end Scrutiny
