import Scrutiny.Failure
import Scrutiny.Proofs.Session.Sharing

/-!
# Which contexts share a ledger

Whether two contexts share a ledger can be told from how they came to be, without a look at the
session: either restarts connect them, or they were started on one ledger that the caller has
supplied, or a chain of both does. The register keeps, step by step, how each context came to be.
Merging is refused within a kinship and nowhere else.
-/

set_option autoImplicit false

namespace Scrutiny

/-- How a context came to be. -/
inductive Birth where
  /-- It was started on a new ledger of its own. -/
  | own (ledger : Nat)
  /-- It was started on a ledger that the caller has supplied. -/
  | supplied (ledger : Nat)
  | restarted (parent : Nat)

def Birth.ledger? : Birth → Option Nat
  | .own l => some l
  | .supplied l => some l
  | .restarted _ => none

/-- Contexts that restarts and supplied ledgers connect. -/
inductive Kin (births : List Birth) : Nat → Nat → Prop where
  | self {n : Nat} {b : Birth} (h : births[n]? = some b) : Kin births n n
  | restarted {n m : Nat} (h : births[m]? = some (.restarted n)) : Kin births n m
  /-- A supplied ledger connects all that were started on it. The caller may also have passed on
  the one that a context has of its own. -/
  | supplied {n m l : Nat} {b : Birth} (hn : births[n]? = some b) (hl : b.ledger? = some l)
      (hm : births[m]? = some (.supplied l)) : Kin births n m
  | symm {n m : Nat} (h : Kin births n m) : Kin births m n
  | trans {n m k : Nat} (h : Kin births n m) (h' : Kin births m k) : Kin births n k

/-- What steps show of contexts and ledgers: how each context came to be, and the number of the
next ledger that is made. -/
structure Register where
  births : List Birth := []
  ledgers : Nat

namespace Register

def enter (r : Register) : Step → Register
  | .start _ _ .own _ _ => ⟨r.births ++ [.own r.ledgers], r.ledgers + 1⟩
  | .start _ _ (.existing l) _ _ =>
    if l < r.ledgers then ⟨r.births ++ [.supplied l], r.ledgers⟩
    else ⟨r.births ++ [.own r.ledgers], r.ledgers + 1⟩
  | .restart n =>
    if n < r.births.length then ⟨r.births ++ [.restarted n], r.ledgers⟩ else r
  | _ => r

def ofSteps (ledgers : Nat) (steps : List Step) : Register :=
  steps.foldl enter { ledgers := ledgers }

theorem enter_of_not_bears (r : Register) {st : Step} (h : st.bears = false) :
    r.enter st = r := by
  cases st with
  | start => cases h
  | restart => cases h
  | _ => rfl

structure Fits (r : Register) (holdings : List Nat) : Prop where
  length : r.births.length = holdings.length
  bounded : ∀ l ∈ holdings, l < r.ledgers
  started : ∀ {n l : Nat} {b : Birth},
    r.births[n]? = some b → b.ledger? = some l → holdings[n]? = some l
  restarted : ∀ {n m : Nat}, r.births[m]? = some (.restarted n) →
    n < m ∧ ∃ l, holdings[n]? = some l ∧ holdings[m]? = some l
  fresh : ∀ {n m l : Nat},
    r.births[n]? = some (.own l) → r.births[m]? = some (.own l) → n = m

variable {r : Register} {holdings : List Nat}

theorem Fits.lt (h : r.Fits holdings) {n : Nat} {b : Birth} (hb : r.births[n]? = some b) :
    n < holdings.length := by
  obtain ⟨hn, -⟩ := List.getElem?_eq_some_iff.mp hb
  rw [← h.length]
  exact hn

theorem Fits.own_lt (h : r.Fits holdings) {n l : Nat} (hb : r.births[n]? = some (.own l)) :
    l < r.ledgers :=
  h.bounded l (List.mem_of_getElem? (h.started hb rfl))

theorem Fits.concat (h : r.Fits holdings) {b : Birth} {l next : Nat} (hn : r.ledgers ≤ next)
    (hl : l < next) (hs : ∀ l', b.ledger? = some l' → l' = l)
    (hr : ∀ n, b = .restarted n → holdings[n]? = some l)
    (ho : ∀ l', b = .own l' → l' = r.ledgers) :
    Fits ⟨r.births ++ [b], next⟩ (holdings ++ [l]) := by
  constructor
  case length => simp [h.length]
  case bounded =>
    intro k hk
    rcases List.mem_append.mp hk with hk | hk
    · exact Nat.lt_of_lt_of_le (h.bounded k hk) hn
    · rwa [List.mem_singleton.mp hk]
  case started =>
    intro n k d hd hk
    rw [Session.getElem?_concat_iff] at hd ⊢
    rcases hd with hd | ⟨rfl, rfl⟩
    · exact .inl (h.started hd hk)
    · exact .inr ⟨h.length, (hs k hk).symm⟩
  case restarted =>
    intro n m hm
    simp only [Session.getElem?_concat_iff] at hm ⊢
    rcases hm with hm | ⟨rfl, hb⟩
    · obtain ⟨hlt, k, hk, hk'⟩ := h.restarted hm
      exact ⟨hlt, k, .inl hk, .inl hk'⟩
    · have hp := hr n hb
      obtain ⟨hlt, -⟩ := List.getElem?_eq_some_iff.mp hp
      exact ⟨by rwa [h.length], l, .inl hp, .inr ⟨h.length, rfl⟩⟩
  case fresh =>
    intro n m k hn hm
    rw [Session.getElem?_concat_iff] at hn hm
    -- a new ledger's number is none of those that are entered
    rcases hn with hn | ⟨rfl, rfl⟩ <;> rcases hm with hm | ⟨rfl, hb⟩
    · exact h.fresh hn hm
    · have hk := h.own_lt hn
      have hk' := ho k hb
      omega
    · have hk := h.own_lt hm
      have hk' := ho k rfl
      omega
    · rfl

end Register

namespace Session

variable {r : Register} {s : Session}

structure Registered (r : Register) (s : Session) : Prop where
  fits : r.Fits s.holdings
  ledgers : r.ledgers = s.ledgers.length

theorem registered_initial (libs : Libraries) (ledgers : List (List ErrorRecord)) :
    Registered (.ofSteps ledgers.length []) (initial libs ledgers) := by
  refine ⟨?_, rfl⟩
  constructor <;> simp [Register.ofSteps, holdings, initial]

section
variable (resource : Option String) (settings : Settings) (choice : LedgerChoice)
  (recurrence cron : Option (String → Check))

theorem registered_birth (h : Registered r s) {b : Birth} {next : Nat}
    (hb : b.ledger? = some (s.ledgerFor choice))
    (hn : next = (s.withLedger choice).1.ledgers.length)
    (ho : ∀ l, b = .own l → l = r.ledgers) :
    Registered ⟨r.births ++ [b], next⟩
      (s.startContext resource settings choice recurrence cron) := by
  constructor
  case fits =>
    rw [startContext_holdings, hn]
    apply h.fits.concat
    case hn =>
      rw [h.ledgers]
      exact withLedger_length s choice
    case hl => exact ledgerFor_lt s choice
    case hs =>
      intro l hl
      exact Option.some.inj (hl.symm.trans hb)
    case hr =>
      rintro n rfl
      cases hb
    case ho => exact ho
  case ledgers => rw [startContext_ledgers, hn]

theorem registered_start (h : Registered r s) :
    Registered (r.enter (.start resource settings choice recurrence cron))
      (s.step (.start resource settings choice recurrence cron)).session := by
  have hl := h.ledgers
  cases choice with
  | own =>
    apply registered_birth resource settings .own recurrence cron h
    · simp [Birth.ledger?, ledgerFor, withLedger, withOwnLedger, hl]
    · simp [withLedger, withOwnLedger, hl]
    · rintro l ⟨⟩
      rfl
  | existing k =>
    by_cases hk : k < s.ledgers.length
    · rw [Register.enter, if_pos (by rwa [hl])]
      apply registered_birth resource settings (.existing k) recurrence cron h
      · simp [Birth.ledger?, ledgerFor, withLedger, hk]
      · simp [withLedger, hk, hl]
      · rintro l ⟨⟩
    · rw [Register.enter, if_neg (by rwa [hl])]
      apply registered_birth resource settings (.existing k) recurrence cron h
      · simp [Birth.ledger?, ledgerFor, withLedger, withOwnLedger, hk, hl]
      · simp [withLedger, withOwnLedger, hk, hl]
      · rintro l ⟨⟩
        rfl

end

theorem registered_restart (h : Registered r s) (n : Nat) (hs : s.Grounded) :
    Registered (r.enter (.restart n)) (s.step (.restart n)).session := by
  have hlen : r.births.length = s.contexts.length := by
    rw [h.fits.length, holdings, List.length_map]
  cases hc : s.context? n with
  | none =>
    have hn : s.contexts.length ≤ n := List.getElem?_eq_none_iff.mp hc
    rw [step_missing rfl hc, Register.enter, if_neg (by omega)]
    exact h
  | some c =>
    have hn := context?_lt hc
    rw [step_restart hc, Register.enter, if_pos (by omega)]
    constructor
    case fits =>
      rw [restart_holdings]
      apply h.fits.concat
      case hn => exact Nat.le_refl _
      case hl =>
        rw [h.ledgers]
        exact hs.context? hc
      case hs =>
        intro l hl
        cases hl
      case hr =>
        rintro m ⟨⟩
        rw [holdings_get, ledgerOf_context hc]
      case ho =>
        intro l hl
        cases hl
    case ledgers => exact h.ledgers

theorem registered_step (h : Registered r s) (hs : s.Grounded) (st : Step) :
    Registered (r.enter st) (s.step st).session := by
  have mv := step_moves s st
  cases hb : st.bears with
  | false =>
    rw [Register.enter_of_not_bears r hb]
    constructor
    case fits =>
      rw [mv.holdings hb]
      exact h.fits
    case ledgers =>
      rw [mv.ledgers_length hb]
      exact h.ledgers
  | true =>
    cases st with
    | start resource settings choice recurrence cron =>
      exact registered_start resource settings choice recurrence cron h
    | restart n => exact registered_restart h n hs
    | _ => cases hb

theorem registered_run (h : Registered r s) (hs : s.Grounded) (steps : List Step) :
    Registered (steps.foldl Register.enter r) (s.run steps) := by
  induction steps generalizing r s with
  | nil => exact h
  | cons st steps ih => exact ih (registered_step h hs st) ((step_moves s st).grounded hs)

/-- One context is started on the caller's list, one restarted from it, one on a list of its own. -/
example :
    (Register.ofSteps 1 [.start none {} (.existing 0) none none, .restart 0,
      .start none {} .own none none]).births = [.supplied 0, .restarted 0, .own 1] := rfl

theorem Registered.shares_of_kin (h : Registered r s) {n m : Nat} (hk : Kin r.births n m) :
    s.Shares n m := by
  induction hk with
  | @self n b hb =>
    obtain ⟨l, hl⟩ : ∃ l, s.holdings[n]? = some l :=
      ⟨_, List.getElem?_eq_getElem (h.fits.lt hb)⟩
    rw [holdings_get] at hl
    exact ⟨l, hl, hl⟩
  | restarted hm =>
    obtain ⟨-, l, hn, hm⟩ := h.fits.restarted hm
    rw [holdings_get] at hn hm
    exact ⟨l, hn, hm⟩
  | @supplied n m l b hn hl hm =>
    have hn := h.fits.started hn hl
    have hm := h.fits.started hm rfl
    rw [holdings_get] at hn hm
    exact ⟨l, hn, hm⟩
  | symm _ ih => exact shares_symm ih
  | trans _ _ ih ih' =>
    obtain ⟨l, hn, hm⟩ := ih
    obtain ⟨l', hm', hk⟩ := ih'
    obtain rfl : l = l' := Option.some.inj (hm.symm.trans hm')
    exact ⟨l, hn, hk⟩

theorem Registered.origin (h : Registered r s) (n : Nat) (hn : n < r.births.length) :
    ∃ o b l, r.births[o]? = some b ∧ b.ledger? = some l ∧ Kin r.births o n := by
  induction n using Nat.strongRecOn with
  | ind n ih =>
    have hb := List.getElem?_eq_getElem hn
    cases hbirth : r.births[n] with
    | own l =>
      rw [hbirth] at hb
      exact ⟨n, _, l, hb, rfl, .self hb⟩
    | supplied l =>
      rw [hbirth] at hb
      exact ⟨n, _, l, hb, rfl, .self hb⟩
    | restarted p =>
      rw [hbirth] at hb
      have hlt := (h.fits.restarted hb).1
      obtain ⟨o, b, l, ho, hl, hk⟩ := ih p hlt (Nat.lt_trans hlt hn)
      exact ⟨o, b, l, ho, hl, hk.trans (.restarted hb)⟩

theorem Registered.kin_of_started (h : Registered r s) {n m l : Nat} {b d : Birth}
    (hn : r.births[n]? = some b) (hb : b.ledger? = some l) (hm : r.births[m]? = some d)
    (hd : d.ledger? = some l) : Kin r.births n m := by
  cases d with
  | restarted p => cases hd
  | supplied k =>
    cases hd
    exact .supplied hn hb hm
  | own k =>
    cases hd
    cases b with
    | restarted p => cases hb
    | supplied k' =>
      cases hb
      exact (Kin.supplied hm rfl hn).symm
    | own k' =>
      cases hb
      obtain rfl := h.fits.fresh hn hm
      exact .self hn

theorem Registered.kin_of_shares (h : Registered r s) {n m : Nat} (hs : s.Shares n m) :
    Kin r.births n m := by
  obtain ⟨l, hn, hm⟩ := hs
  have lt_of_ledger : ∀ {k}, s.ledgerOf? k = some l → k < r.births.length := by
    intro k hk
    rw [← holdings_get] at hk
    rw [h.fits.length]
    exact (List.getElem?_eq_some_iff.mp hk).1
  -- both go back to starts, on the ledgers that they hold
  have start_of_ledger : ∀ {k}, s.ledgerOf? k = some l →
      ∃ o b, r.births[o]? = some b ∧ b.ledger? = some l ∧ Kin r.births o k := by
    intro k hk
    obtain ⟨o, b, l', ho, hl, hok⟩ := h.origin k (lt_of_ledger hk)
    obtain ⟨j, hj, hj'⟩ := h.shares_of_kin hok
    have hl' := h.fits.started ho hl
    rw [holdings_get] at hl'
    obtain rfl : l' = j := Option.some.inj (hl'.symm.trans hj)
    obtain rfl : l' = l := Option.some.inj (hj'.symm.trans hk)
    exact ⟨o, b, ho, hl, hok⟩
  obtain ⟨o, b, ho, hb, hon⟩ := start_of_ledger hn
  obtain ⟨p, d, hp, hd, hpm⟩ := start_of_ledger hm
  exact (hon.symm.trans (h.kin_of_started ho hb hp hd)).trans hpm

theorem Registered.shares_iff (h : Registered r s) (n m : Nat) :
    s.Shares n m ↔ Kin r.births n m :=
  ⟨h.kin_of_shares, h.shares_of_kin⟩

/-- What kinship decides in a session. -/
structure KinshipDecides (births : List Birth) (s : Session) : Prop where
  shares : ∀ n m, s.Shares n m ↔ Kin births n m
  /-- No step brings two contexts together or parts them. -/
  lasting : ∀ steps n m, n < s.contexts.length → m < s.contexts.length →
    ((s.run steps).Shares n m ↔ Kin births n m)
  alike : ∀ steps n m, Kin births n m →
    (s.run steps).errors n = (s.run steps).errors m ∧
      (s.run steps).hasErrors n = (s.run steps).hasErrors m
  refused : ∀ n m, (∃ r, (s.step (.merge n m)).fault = some (.refused r) ∧ r.kind = .misuse) ↔
    Kin births n m
  merged : ∀ n m, n < s.contexts.length → m < s.contexts.length → ¬ Kin births n m →
    (s.step (.merge n m)).fault = none ∧
      (s.step (.merge n m)).session.errors n = s.errors n ++ s.errors m ∧
      (s.step (.merge n m)).session.errors m = s.errors m
  /-- A restarted context keeps nothing but the resource in focus, and takes nothing away. -/
  restarted : ∀ n c, s.context? n = some c →
    (s.step (.restart n)).fault = none ∧
      (s.step (.restart n)).session.context? n = some c ∧
      (s.step (.restart n)).session.context? s.contexts.length =
        some ⟨{ resource := c.focus.resource }, c.settings, c.ledger, c.examiner, false⟩

theorem Registered.merge_refused (h : Registered r s) (hs : s.Grounded) (n m : Nat) :
    (∃ r, (s.step (.merge n m)).fault = some (.refused r) ∧ r.kind = .misuse) ↔
      Kin r.births n m := by
  constructor
  · rintro ⟨e, he, -⟩
    cases hc : s.context? n with
    | none =>
      rw [step_missing rfl hc] at he
      cases he
    | some c =>
      cases hd : s.context? m with
      | none =>
        rw [step_merge_missing hd] at he
        cases he
      | some d =>
        have hn := context?_lt hc
        have hm := context?_lt hd
        by_cases hl : s.Shares n m
        · exact h.kin_of_shares hl
        · rw [(step_merge_apart hs hn hm hl).1] at he
          cases he
  · intro hk
    obtain ⟨resource, hf⟩ := step_merge_shared (h.shares_of_kin hk)
    exact ⟨_, hf, rfl⟩

/-- Kinship, which the steps so far show, decides in every session that is reached which contexts
share a ledger, now and after further steps, and which of them cannot be merged. -/
theorem kinship_decides (libs : Libraries) (ledgers : List (List ErrorRecord))
    (before : List Step) :
    KinshipDecides (Register.ofSteps ledgers.length before).births
      (run (initial libs ledgers) before) := by
  have hs := run_grounded (grounded_initial libs ledgers) before
  have h := registered_run (registered_initial libs ledgers)
    (grounded_initial libs ledgers) before
  constructor
  case shares => exact h.shares_iff
  case lasting =>
    intro steps n m hn hm
    rw [shares_run hn hm, h.shares_iff]
    rfl
  case alike =>
    intro steps n m hk
    obtain ⟨l, hn, hm⟩ := h.shares_of_kin hk
    have he := errors_of_shares ⟨l, ledgerOf_run hn steps, ledgerOf_run hm steps⟩
    exact ⟨he, by rw [hasErrors, hasErrors, he]⟩
  case refused => exact h.merge_refused hs
  case merged =>
    intro n m hn hm hk
    have hl : ¬ (run (initial libs ledgers) before).Shares n m := fun hl => hk (h.kin_of_shares hl)
    obtain ⟨hf, hto, hothers⟩ := step_merge_apart hs hn hm hl
    exact ⟨hf, hto, hothers m hl⟩
  case restarted =>
    intro n c hc
    rw [step_restart hc]
    refine ⟨rfl, context?_of_append hc _, ?_⟩
    simp [restart, context?]

end Session
end Scrutiny
