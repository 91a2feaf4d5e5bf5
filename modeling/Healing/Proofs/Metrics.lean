/-
  What the metrics have counted.

  Whatever is reported to the metrics makes an entry in a book.  The tables are summaries of that
  book: a counter is the number of its entries, and the gauge of running actions is the number of
  those that were started less those that have come to their end.

  1. **Entries** - `Metrics.Entry`, one for every kind of report, and `Metrics.record`.
  2. **Balances** - `Entry.balance`: what a book says about a gauge.
  3. **Summaries** - `launchedCount_foldl` and `requestedCount_foldl`: the tables say the same.
-/
import Healing.Metrics

namespace Healing

/-- The words for the states are different. -/
theorem LaunchState.word_injective {a b : LaunchState} (h : a.word = b.word) : a = b := by
  cases a <;> cases b <;> first | rfl | exact absurd h (by decide)

namespace Metrics

/-! ## Entries -/

/-- A report to the metrics. -/
inductive Entry where
  | requested (kind rule alert : String)
  | started (kind target rule : String)
  | completed (kind target rule : String)
  | failed (kind target rule : String)
deriving DecidableEq

/-- Count what is reported. -/
def record (m : Metrics) : Entry → Metrics
  | .requested kind rule alert => m.requested kind rule alert
  | .started kind target rule => m.started kind target rule
  | .completed kind target rule => m.completed kind target rule
  | .failed kind target rule => m.failed kind target rule

/-! ## Balances -/

/-- What a book says about a gauge. -/
def Entry.balance (book : List Entry) (kind target rule : String) : LaunchState → Int
  | .running => book.count (.started kind target rule) - book.count (.completed kind target rule)
  | .completed => book.count (.completed kind target rule)
  | .failed => book.count (.failed kind target rule)

/-! ## Summaries -/

/-- Two gauges are the same iff all their labels are. -/
theorem launchedKey_eq_iff {kind target rule kind' target' rule' : String}
    {state state' : LaunchState} :
    [kind, target, rule, state.word] = [kind', target', rule', state'.word] ↔
      kind' = kind ∧ target' = target ∧ rule' = rule ∧ state' = state := by
  constructor
  · intro h
    simp only [List.cons.injEq, and_true] at h
    obtain ⟨rfl, rfl, rfl, hword⟩ := h
    exact ⟨rfl, rfl, rfl, (LaunchState.word_injective hword).symm⟩
  · rintro ⟨rfl, rfl, rfl, rfl⟩
    rfl

section Summaries

variable (m : Metrics) (kind target rule : String)

/-- A change of one gauge says nothing about another. -/
theorem launchedCount_addLaunched (kind' target' rule' : String) (state state' : LaunchState)
    (delta : Int) :
    (m.addLaunched kind' target' rule' state' delta).launchedCount kind target rule state.word
      = m.launchedCount kind target rule state.word
        + if kind' = kind ∧ target' = target ∧ rule' = rule ∧ state' = state then delta else 0 := by
  have hget : (m.addLaunched kind' target' rule' state' delta).launchedCount kind target rule
      state.word = ((m.launchedTable.insert [kind', target', rule', state'.word]
        (m.launchedCount kind' target' rule' state'.word + delta)).get?
          [kind, target, rule, state.word]).getD 0 := rfl
  rw [hget, KeyMap.get?_insert]
  by_cases h : kind' = kind ∧ target' = target ∧ rule' = rule ∧ state' = state
  · rw [if_pos (launchedKey_eq_iff.mpr h), if_pos h]
    obtain ⟨rfl, rfl, rfl, rfl⟩ := h
    rfl
  · rw [if_neg (fun he => h (launchedKey_eq_iff.mp he)), if_neg h, Int.add_zero]
    rfl

/-- One report moves a gauge by what it says about it. -/
theorem launchedCount_record (entry : Entry) (state : LaunchState) :
    (m.record entry).launchedCount kind target rule state.word
      = m.launchedCount kind target rule state.word
        + Entry.balance [entry] kind target rule state := by
  cases entry with
  | requested kind' rule' alert' =>
    have hsame : (m.record (.requested kind' rule' alert')).launchedCount kind target rule
        state.word = m.launchedCount kind target rule state.word := rfl
    rw [hsame]
    cases state <;> simp [Entry.balance]
  | started kind' target' rule' =>
    show (m.addLaunched kind' target' rule' .running 1).launchedCount _ _ _ _ = _
    rw [launchedCount_addLaunched]
    by_cases h : kind' = kind ∧ target' = target ∧ rule' = rule <;> cases state <;>
      simp [Entry.balance, h]
  | completed kind' target' rule' =>
    show ((m.addLaunched kind' target' rule' .running (-1)).addLaunched kind' target' rule'
      .completed 1).launchedCount _ _ _ _ = _
    rw [launchedCount_addLaunched, launchedCount_addLaunched]
    by_cases h : kind' = kind ∧ target' = target ∧ rule' = rule <;> cases state <;>
      simp [Entry.balance, h]
  | failed kind' target' rule' =>
    show (m.addLaunched kind' target' rule' .failed 1).launchedCount _ _ _ _ = _
    rw [launchedCount_addLaunched]
    by_cases h : kind' = kind ∧ target' = target ∧ rule' = rule <;> cases state <;>
      simp [Entry.balance, h]

/-- The balance of a longer book. -/
theorem Entry.balance_cons (entry : Entry) (book : List Entry) (state : LaunchState) :
    balance (entry :: book) kind target rule state
      = balance [entry] kind target rule state + balance book kind target rule state := by
  cases state with
  | running =>
    simp only [balance, List.count_cons, List.count_nil]
    omega
  | completed =>
    simp only [balance, List.count_cons, List.count_nil]
    omega
  | failed =>
    simp only [balance, List.count_cons, List.count_nil]
    omega

/-- **A gauge is the balance of the book.** -/
theorem launchedCount_foldl (state : LaunchState) :
    ∀ (book : List Entry) (m : Metrics),
      (book.foldl record m).launchedCount kind target rule state.word
        = m.launchedCount kind target rule state.word + Entry.balance book kind target rule state
  | [], m => by
    have hnil : Entry.balance [] kind target rule state = 0 := by cases state <;> rfl
    rw [hnil, Int.add_zero]
    rfl
  | entry :: r, m => by
    have htail := launchedCount_foldl state r (m.record entry)
    rw [launchedCount_record, Int.add_assoc, ← Entry.balance_cons] at htail
    exact htail

/-- One report moves a counter if it is a request of that series. -/
theorem requestedCount_record (alert : String) (entry : Entry) :
    (m.record entry).requestedCount kind rule alert
      = m.requestedCount kind rule alert + [entry].count (.requested kind rule alert) := by
  cases entry with
  | requested kind' rule' alert' =>
    have hget : (m.record (.requested kind' rule' alert')).requestedCount kind rule alert
        = ((m.requestedTable.insert [kind', rule', alert']
          (m.requestedCount kind' rule' alert' + 1)).get? [kind, rule, alert]).getD 0 := rfl
    rw [hget, KeyMap.get?_insert]
    by_cases h : kind' = kind ∧ rule' = rule ∧ alert' = alert
    · obtain ⟨rfl, rfl, rfl⟩ := h
      rw [if_pos rfl, List.count_singleton_self]
      rfl
    · have hkey : [kind, rule, alert] ≠ [kind', rule', alert'] := by
        intro he
        simp only [List.cons.injEq, and_true] at he
        exact h ⟨he.1.symm, he.2.1.symm, he.2.2.symm⟩
      have hentry : Entry.requested kind' rule' alert' ≠ .requested kind rule alert := by
        intro he
        exact h (Entry.requested.inj he)
      rw [if_neg hkey, List.count_singleton, if_neg (by simpa using hentry)]
      rfl
  | started _ _ _ => exact (Nat.add_zero _).symm
  | completed _ _ _ => exact (Nat.add_zero _).symm
  | failed _ _ _ => exact (Nat.add_zero _).symm

/-- **A counter is the number of its entries.** -/
theorem requestedCount_foldl (alert : String) :
    ∀ (book : List Entry) (m : Metrics), (book.foldl record m).requestedCount kind rule alert
      = m.requestedCount kind rule alert + book.count (.requested kind rule alert)
  | [], _ => rfl
  | entry :: r, m => by
    have htail := requestedCount_foldl alert r (m.record entry)
    have hcount : (entry :: r).count (.requested kind rule alert)
        = [entry].count (.requested kind rule alert) + r.count (.requested kind rule alert) := by
      rw [← List.count_append]
      rfl
    rw [requestedCount_record, Nat.add_assoc, ← hcount] at htail
    exact htail

end Summaries

end Metrics

end Healing
