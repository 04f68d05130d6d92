import Mathlib.Data.List.Basic
import Scrutiny.Proofs.Session.History
import Scrutiny.Proofs.Session.Sharing

/-!
# Nested contexts

What belongs to a part of a request may be judged on a context of its own, which is merged into
the parent's at the end, or on one that writes to the parent's ledger from the start. The parent
sees the same records either way, as neither a rule nor a change of focus looks at the ledger.
When there are several such contexts they may first be gathered in one, in whatever grouping.
-/

set_option autoImplicit false

namespace Scrutiny

/-- How contexts are merged into each other: the second of a pair into the first. -/
inductive Gathering where
  | one (n : Nat)
  | both (into other : Gathering)

namespace Gathering

def head : Gathering → Nat
  | .one n => n
  | .both a _ => a.head

def contexts : Gathering → List Nat
  | .one n => [n]
  | .both a b => a.contexts ++ b.contexts

def steps : Gathering → List Step
  | .one _ => []
  | .both a b => a.steps ++ b.steps ++ [.merge a.head b.head]

theorem head_mem (g : Gathering) : g.head ∈ g.contexts := by
  induction g with
  | one n => exact List.mem_singleton_self n
  | both a b iha ihb => exact List.mem_append_left _ iha

end Gathering

/-- A nested context: what it is made with, and what is done with it. -/
structure Nested where
  resource : Option String
  settings : Settings
  recurrence : Option (String → Check)
  cron : Option (String → Check)
  calls : List Call

def Nested.steps (d : Nested) (choice : LedgerChoice) (n : Nat) : List Step :=
  .start d.resource d.settings choice d.recurrence d.cron :: d.calls.map (Call.on n)

namespace Session

def nest (s : Session) (d : Nested) (choice : LedgerChoice) : Session :=
  s.run (d.steps choice s.contexts.length)

variable {s : Session}

/-- Contexts that are there and do not share a ledger, no two of them. -/
structure Apart (s : Session) (ns : List Nat) : Prop where
  found : ∀ n ∈ ns, n < s.contexts.length
  pairwise : ns.Pairwise fun n m => ¬ s.Shares n m

theorem Apart.run {ns : List Nat} (h : s.Apart ns) (steps : List Step) :
    (s.run steps).Apart ns := by
  constructor
  case found => exact fun n hn => lt_run (h.found n hn) steps
  case pairwise =>
    apply h.pairwise.imp_of_mem
    intro n m hn hm hne
    exact not_shares_run (h.found n hn) (h.found m hm) hne steps

theorem Apart.of_append {ns ms : List Nat} (h : s.Apart (ns ++ ms)) :
    s.Apart ns ∧ s.Apart ms ∧ ∀ n ∈ ns, ∀ m ∈ ms, ¬ s.Shares n m := by
  obtain ⟨hn, hm, hnm⟩ := List.pairwise_append.mp h.pairwise
  refine ⟨⟨?_, hn⟩, ⟨?_, hm⟩, hnm⟩
  · exact fun n hn => h.found n (List.mem_append_left _ hn)
  · exact fun m hm => h.found m (List.mem_append_right _ hm)

theorem gather (hs : s.Grounded) (g : Gathering) (h : s.Apart g.contexts) :
    (s.run g.steps).errors g.head = g.contexts.flatMap s.errors ∧
      ∀ m < s.contexts.length, (∀ n ∈ g.contexts, ¬ s.Shares n m) →
        (s.run g.steps).errors m = s.errors m := by
  induction g generalizing s with
  | one n => exact ⟨by simp [Gathering.steps, Gathering.head, Gathering.contexts], fun _ _ _ => rfl⟩
  | both a b iha ihb =>
    obtain ⟨ha, hb, hab⟩ := h.of_append
    obtain ⟨iha, iha'⟩ := iha hs ha
    obtain ⟨ihb, ihb'⟩ := ihb (run_grounded hs a.steps) (hb.run a.steps)
    have hal := ha.found a.head a.head_mem
    have hbl := hb.found b.head b.head_mem
    have hhead := hab a.head a.head_mem b.head b.head_mem
    -- the two halves do not see each other
    have hbs : b.contexts.flatMap (s.run a.steps).errors = b.contexts.flatMap s.errors := by
      apply List.flatMap_congr
      intro n hn
      exact iha' n (hb.found n hn) fun k hk => hab k hk n hn
    have has : ((s.run a.steps).run b.steps).errors a.head = (s.run a.steps).errors a.head := by
      apply ihb' a.head (lt_run hal a.steps)
      intro n hn
      refine not_shares_run (hb.found n hn) hal (fun hsh => ?_) a.steps
      exact hab a.head a.head_mem n hn (shares_symm hsh)
    obtain ⟨-, hto, hothers⟩ := step_merge_apart
      (run_grounded (run_grounded hs a.steps) b.steps)
      (lt_run (lt_run hal a.steps) b.steps) (lt_run (lt_run hbl a.steps) b.steps)
      (not_shares_run (lt_run hal a.steps) (lt_run hbl a.steps)
        (not_shares_run hal hbl hhead a.steps) b.steps)
    simp only [Gathering.steps, run_append, run_cons, run_nil, Gathering.head, Gathering.contexts]
    constructor
    · rw [hto, has, iha, ihb, hbs, List.flatMap_append]
    · intro m hm hne
      have hma := iha' m hm fun n hn => hne n (List.mem_append_left _ hn)
      have hmb := ihb' m (lt_run hm a.steps) fun n hn =>
        not_shares_run (hb.found n hn) hm (hne n (List.mem_append_right _ hn)) a.steps
      rw [hothers, hmb, hma]
      apply not_shares_run (lt_run hal a.steps) (lt_run hm a.steps)
      exact not_shares_run hal hm (hne a.head (List.mem_append_left _ a.head_mem)) a.steps

theorem merge_each (hs : s.Grounded) {p : Nat} (ns : List Nat) (hp : p < s.contexts.length)
    (hn : ∀ n ∈ ns, n < s.contexts.length) (h : ∀ n ∈ ns, ¬ s.Shares p n) :
    (s.run (ns.map (.merge p))).errors p = s.errors p ++ ns.flatMap s.errors := by
  induction ns generalizing s with
  | nil => simp
  | cons n ns ih =>
    obtain ⟨hnl, hns⟩ := List.forall_mem_cons.mp hn
    obtain ⟨hpn, hpns⟩ := List.forall_mem_cons.mp h
    obtain ⟨-, hto, hothers⟩ := step_merge_apart hs hp hnl hpn
    have ih := ih ((step_moves s (.merge p n)).grounded hs) (lt_run hp [.merge p n])
      (fun k hk => lt_run (hns k hk) [.merge p n])
      (fun k hk => not_shares_run hp (hns k hk) (hpns k hk) [.merge p n])
    have hkept : ns.flatMap (s.step (.merge p n)).session.errors = ns.flatMap s.errors := by
      apply List.flatMap_congr
      intro k hk
      exact hothers k (hpns k hk)
    rw [List.map_cons, run_cons, ih, hto, hkept, List.flatMap_cons, List.append_assoc]

theorem merge_gathered (hs : s.Grounded) {p : Nat} (g : Gathering)
    (h : s.Apart (p :: g.contexts)) :
    (s.run (g.steps ++ [.merge p g.head])).errors p =
      s.errors p ++ g.contexts.flatMap s.errors := by
  have h : s.Apart ([p] ++ g.contexts) := h
  obtain ⟨hp, hg, hpg⟩ := h.of_append
  have hpl := hp.found p (List.mem_singleton_self p)
  have hpg := hpg p (List.mem_singleton_self p)
  obtain ⟨hhead, hothers⟩ := gather hs g hg
  have hkept := hothers p hpl fun n hn hsh => hpg n hn (shares_symm hsh)
  have hgl := hg.found g.head g.head_mem
  obtain ⟨-, hto, -⟩ := step_merge_apart (run_grounded hs g.steps) (lt_run hpl g.steps)
    (lt_run hgl g.steps) (not_shares_run hpl hgl (hpg g.head g.head_mem) g.steps)
  rw [run_append, run_cons, run_nil, hto, hkept, hhead]

/-- Gathering one after the other, and from the last on. -/
example :
    (Gathering.both (.both (.one 1) (.one 2)) (.one 3)).steps = [.merge 1 2, .merge 1 3] ∧
      (Gathering.both (.one 1) (.both (.one 2) (.one 3))).steps = [.merge 2 3, .merge 1 2] :=
  ⟨rfl, rfl⟩

theorem nest_ledgerOf (s : Session) (d : Nested) (choice : LedgerChoice) :
    (s.nest d choice).ledgerOf? s.contexts.length = some (s.ledgerFor choice) := by
  rw [nest, Nested.steps, run_cons]
  apply ledgerOf_run
  simp [step, still, ledgerOf?, context?, startContext_contexts]

theorem calls_bear_nothing (n : Nat) (calls : List Call) :
    ∀ st ∈ calls.map (Call.on n), st.bears = false := by
  intro st hst
  obtain ⟨call, -, rfl⟩ := List.mem_map.mp hst
  cases call <;> rfl

theorem nest_length (s : Session) (d : Nested) (choice : LedgerChoice) :
    (s.nest d choice).contexts.length = s.contexts.length + 1 := by
  have hh := run_holdings
    (s.step (.start d.resource d.settings choice d.recurrence d.cron)).session
    _ (calls_bear_nothing s.contexts.length d.calls)
  have hl := congrArg List.length hh
  simp only [holdings, List.length_map] at hl
  rw [nest, Nested.steps, run_cons, hl]
  simp [step, still, startContext_contexts]

theorem run_calls_ledger (hs : s.Grounded) {n l m : Nat} (hn : s.ledgerOf? n = some l)
    (hm : l ≠ m) (calls : List Call) :
    (s.run (calls.map (Call.on n))).ledger m = s.ledger m := by
  induction calls generalizing s with
  | nil => rfl
  | cons call calls ih =>
    have mv := step_moves s (call.on n)
    have hw : s.written m (call.on n) = [] := by
      cases call with
      | change ch => rfl
      | judge q => simp [Call.on, written, hn, hm]
    rw [List.map_cons, run_cons, ih (mv.grounded hs) (ledgerOf_run hn [call.on n]),
      mv.ledger hs, hw, List.append_nil]

theorem nest_ledger_of_ne (hs : s.Grounded) (d : Nested) (choice : LedgerChoice) {m : Nat}
    (hm : s.ledgerFor choice ≠ m) : (s.nest d choice).ledger m = s.ledger m := by
  have mv := step_moves s (.start d.resource d.settings choice d.recurrence d.cron)
  have hn : (s.step (.start d.resource d.settings choice d.recurrence d.cron)).session.ledgerOf?
      s.contexts.length = some (s.ledgerFor choice) := nest_ledgerOf s { d with calls := [] } choice
  rw [nest, Nested.steps, run_cons, run_calls_ledger (mv.grounded hs) hn hm, mv.ledger hs,
    written_quiet s rfl, List.append_nil]

theorem nest_ledger (s : Session) (d : Nested) (choice : LedgerChoice) :
    (s.nest d choice).ledger (s.ledgerFor choice) =
      s.firstRecords choice ++ Call.recorded d.settings
        (checkersOf s.libraries d.settings d.recurrence d.cron) d.resource d.calls := by
  obtain ⟨c₀, h₀⟩ := follows_start s d.resource d.settings choice d.recurrence d.cron
  obtain ⟨c, h⟩ := follows_run h₀ d.calls
  have hl := nest_ledgerOf s d choice
  have hc : (s.nest d choice).context? s.contexts.length = some c := h.found
  rw [ledgerOf_context hc] at hl
  rw [← Option.some.inj hl]
  exact h.written

theorem nest_errors (d : Nested) {p : Nat} {c : Context} (hc : s.context? p = some c)
    (choice : LedgerChoice) :
    (s.nest d choice).errors p = (s.nest d choice).ledger c.ledger := by
  obtain ⟨f, b, hc'⟩ := run_context hc (d.steps choice s.contexts.length)
  have he := errors_of_context hc'
  exact he

theorem ledger_lt (hs : s.Grounded) {n l : Nat} (h : s.ledgerOf? n = some l) :
    l < s.ledgers.length := by
  obtain ⟨c, hc, rfl⟩ := Option.map_eq_some_iff.mp h
  exact hs.context? hc

theorem nest_apart (hs : s.Grounded) (d : Nested) {n : Nat} (hn : n < s.contexts.length) :
    ¬ (s.nest d .own).Shares n s.contexts.length := by
  rintro ⟨l, hl, hl'⟩
  obtain ⟨c, hc⟩ := context?_of_lt hn
  have hc := ledgerOf_context hc
  have hlt := ledger_lt hs hc
  rw [nest, ledgerOf_run hc] at hl
  rw [nest_ledgerOf] at hl'
  have hown : s.ledgerFor .own = s.ledgers.length := rfl
  have he := Option.some.inj (hl.trans hl'.symm)
  omega

def nestAll (s : Session) (ds : List Nested) : Session := ds.foldl (fun s d => s.nest d .own) s

theorem nestAll_grounded (hs : s.Grounded) (ds : List Nested) : (s.nestAll ds).Grounded := by
  induction ds generalizing s with
  | nil => exact hs
  | cons d ds ih => exact ih (run_grounded hs (d.steps .own s.contexts.length))

theorem nestAll_apart (hs : s.Grounded) {ns : List Nat} (h : s.Apart ns) (ds : List Nested) :
    (s.nestAll ds).Apart (ns ++ List.range' s.contexts.length ds.length) := by
  induction ds generalizing s ns with
  | nil => simpa [nestAll] using h
  | cons d ds ih =>
    have hold := h.run (d.steps .own s.contexts.length)
    have hnext : (s.nest d .own).Apart (ns ++ [s.contexts.length]) := by
      constructor
      case found =>
        intro n hn
        rcases List.mem_append.mp hn with hn | hn
        · exact hold.found n hn
        · rw [List.mem_singleton.mp hn, nest_length]
          exact Nat.lt_succ_self _
      case pairwise =>
        apply List.pairwise_append.mpr
        refine ⟨hold.pairwise, List.pairwise_singleton _ _, ?_⟩
        intro n hn m hm
        rw [List.mem_singleton.mp hm]
        exact nest_apart hs d (h.found n hn)
    have hs' : (s.nest d .own).Grounded := run_grounded hs _
    have ih := ih hs' hnext
    rwa [nest_length, List.append_assoc, List.singleton_append] at ih

theorem nest_merged (hs : s.Grounded) {p : Nat} {c : Context} (hc : s.context? p = some c)
    (d : Nested) :
    ((s.nest d .own).step (.merge p s.contexts.length)).fault = none ∧
      ((s.nest d .own).step (.merge p s.contexts.length)).session.errors p =
        (s.nest d (.existing c.ledger)).errors p := by
  have hp := context?_lt hc
  have hl := hs.context? hc
  have hchild : s.contexts.length < (s.nest d .own).contexts.length := by
    rw [nest_length]
    exact Nat.lt_succ_self _
  obtain ⟨hf, hto, -⟩ := step_merge_apart (run_grounded hs (d.steps .own s.contexts.length))
    (lt_run hp _) hchild (nest_apart hs d hp)
  have hown : s.ledgerFor .own ≠ c.ledger := fun e => by
    have hlen : s.ledgerFor .own = s.ledgers.length := rfl
    omega
  have hgiven : s.ledgerFor (.existing c.ledger) = c.ledger := by
    simp [ledgerFor, withLedger, hl]
  obtain ⟨e, he⟩ := context?_of_lt hchild
  have helast := nest_ledgerOf s d .own
  rw [ledgerOf_context he] at helast
  refine ⟨hf, hto.trans ?_⟩
  calc
    (s.nest d .own).errors p ++ (s.nest d .own).errors s.contexts.length
    _ = s.ledger c.ledger ++ (s.nest d .own).ledger (s.ledgerFor .own) := by
      rw [nest_errors d hc, nest_ledger_of_ne hs d .own hown, errors_of_context he,
        Option.some.inj helast]
    _ = (s.nest d (.existing c.ledger)).ledger (s.ledgerFor (.existing c.ledger)) := by
      rw [nest_ledger, nest_ledger]
      rfl
    _ = (s.nest d (.existing c.ledger)).errors p := by
      rw [hgiven, nest_errors d hc]

theorem gathered_agrees (hs : s.Grounded) (p : Nat) (g : Gathering)
    (h : s.Apart (p :: g.contexts)) :
    (s.run (g.contexts.map (.merge p))).errors p = s.errors p ++ g.contexts.flatMap s.errors ∧
      (s.run (g.steps ++ [.merge p g.head])).errors p =
        (s.run (g.contexts.map (.merge p))).errors p := by
  have hp := h.found p List.mem_cons_self
  have hg := fun n hn => h.found n (List.mem_cons_of_mem p hn)
  have heach := merge_each hs g.contexts hp hg (List.pairwise_cons.mp h.pairwise).1
  exact ⟨heach, (merge_gathered hs g h).trans heach.symm⟩

/-- How records get from nested contexts to their parent makes no difference. -/
structure NestingAgrees (s : Session) : Prop where
  /-- One nested context is merged, or it has written to the parent's ledger from the start. -/
  direct : ∀ (p : Nat) (c : Context) (d : Nested), s.context? p = some c →
    ((s.nest d .own).step (.merge p s.contexts.length)).fault = none ∧
      ((s.nest d .own).step (.merge p s.contexts.length)).session.errors p =
        (s.nest d (.existing c.ledger)).errors p
  /-- Several are merged into the parent one after the other, or gathered before that. -/
  nested : ∀ (p : Nat) (ds : List Nested) (g : Gathering), p < s.contexts.length →
    g.contexts = List.range' s.contexts.length ds.length →
      ((s.nestAll ds).run (g.steps ++ [.merge p g.head])).errors p =
        ((s.nestAll ds).run (g.contexts.map (.merge p))).errors p
  /-- So are any contexts with ledgers of their own, whatever has been done with them. -/
  gathered : ∀ (p : Nat) (g : Gathering), s.Apart (p :: g.contexts) →
    (s.run (g.contexts.map (.merge p))).errors p = s.errors p ++ g.contexts.flatMap s.errors ∧
      (s.run (g.steps ++ [.merge p g.head])).errors p =
        (s.run (g.contexts.map (.merge p))).errors p

theorem nesting_agrees (libs : Libraries) (ledgers : List (List ErrorRecord))
    (before : List Step) :
    NestingAgrees (run (initial libs ledgers) before) := by
  have hs := run_grounded (grounded_initial libs ledgers) before
  constructor
  case direct =>
    intro p c d hc
    exact nest_merged hs hc d
  case nested =>
    intro p ds g hp hg
    have hone : (run (initial libs ledgers) before).Apart [p] :=
      ⟨by simpa using hp, List.pairwise_singleton _ p⟩
    have happ := nestAll_apart hs hone ds
    rw [List.singleton_append, ← hg] at happ
    exact (gathered_agrees (nestAll_grounded hs ds) p g happ).2
  case gathered => exact gathered_agrees hs

end Session
end Scrutiny
