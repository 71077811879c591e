import Mathlib.Data.List.ReduceOption
import TransitFeed.CommandLine.Examination

/-! # The tenths of a task

A task is logged when it begins and whenever an increment completes a tenth of it that was not
complete before. While the words do not overflow, the log holds the exact sum of the increments and
the last tenth that is complete; what is logged is read off the sums.
-/

namespace TransitFeed

/-- The complete tenths of a task of a size. -/
def tenths (total done : Nat) : Nat := 10 * min done total / total

section Tenths

variable {total a b : Nat}

theorem tenths_of_empty (done : Nat) : tenths 0 done = 0 := Nat.div_zero _

theorem tenths_of_nothing (total : Nat) : tenths total 0 = 0 := by
  rw [tenths, Nat.zero_min, Nat.mul_zero, Nat.zero_div]

theorem tenths_mono (total : Nat) (le : a ≤ b) : tenths total a ≤ tenths total b :=
  Nat.div_le_div_right (Nat.mul_le_mul_left 10 (by omega))

theorem tenths_le (total done : Nat) : tenths total done ≤ 10 := by
  refine Nat.div_le_of_le_mul ?_
  have := Nat.min_le_right done total
  omega

theorem tenths_eq_ten : tenths total a = 10 ↔ 0 < total ∧ total ≤ a := by
  rcases Nat.eq_zero_or_pos total with rfl | positive
  · simp [tenths_of_empty]
  rcases Nat.lt_or_ge a total with less | enough
  · have few : tenths total a < 10 := by
      refine Nat.div_lt_of_lt_mul ?_
      rw [Nat.min_eq_left (Nat.le_of_lt less)]
      omega
    omega
  · rw [tenths, Nat.min_eq_right enough, Nat.mul_div_cancel _ positive]
    exact iff_of_true rfl ⟨positive, enough⟩

end Tenths

namespace TenthLog

/-- What the log is told. -/
inductive Call where
  | begin (task : String) (total : UInt64)
  | advance (units : UInt64)
  deriving Repr, DecidableEq

/-- A call and the line that it logs. -/
def answer (log : TenthLog) : Call → TenthLog × Option String
  | .begin task total => (begin task total, some task)
  | .advance units => log.advance units

/-- Calls one after the other, with a line or nothing for each. -/
def run (log : TenthLog) : List Call → TenthLog × List (Option String)
  | [] => (log, [])
  | call :: rest =>
    let (next, line) := log.answer call
    let (last, lines) := next.run rest
    (last, line :: lines)

theorem run_append (log : TenthLog) (calls more : List Call) :
    log.run (calls ++ more) =
      (((log.run calls).1.run more).1, (log.run calls).2 ++ ((log.run calls).1.run more).2) := by
  induction calls generalizing log with
  | nil => rfl
  | cons call rest ih =>
      simp only [List.cons_append, run, ih]

def message (task : String) (tenth : Nat) : String :=
  task ++ ": " ++ String.ofList (Digits.ofNat (10 * tenth)) ++ "%"

/-- Neither a sum of increments nor ten times what counts of it leaves a word. -/
def Fits (total sum : Nat) : Prop := sum < UInt64.size ∧ 10 * min sum total < UInt64.size

instance (total sum : Nat) : Decidable (Fits total sum) :=
  inferInstanceAs (Decidable (sum < UInt64.size ∧ 10 * min sum total < UInt64.size))

theorem Fits.mono {total a b : Nat} (fits : Fits total b) (le : a ≤ b) : Fits total a := by
  unfold Fits at *
  omega

/-- The log of a task after increments. -/
structure Stands (log : TenthLog) (task : String) (total : UInt64) (sum : Nat) : Prop where
  named : log.task = task
  sized : log.total = total
  done : log.done.toNat = sum
  tenth : log.tenth.toNat = tenths total.toNat sum

theorem stands_begin (task : String) (total : UInt64) : (begin task total).Stands task total 0 :=
  ⟨rfl, rfl, rfl, (tenths_of_nothing _).symm⟩

theorem toNat_min (a b : UInt64) : (min a b).toNat = min a.toNat b.toNat := by
  rw [UInt64.min_def]
  split
  · next le => rw [Nat.min_eq_left (UInt64.le_iff_toNat_le.mp le)]
  · next lt => rw [Nat.min_eq_right (by have := UInt64.le_iff_toNat_le.not.mp lt; omega)]

variable {log : TenthLog} {task : String} {total units : UInt64} {sum : Nat}

theorem toNat_complete (fits : Fits log.total.toNat log.done.toNat) :
    log.complete.toNat = tenths log.total.toNat log.done.toNat := by
  unfold complete
  split
  · next empty =>
      rw [empty]
      exact (tenths_of_empty _).symm
  · rw [UInt64.toNat_div, UInt64.toNat_mul, toNat_min, tenths, Nat.mul_comm]
    rw [show (10 : UInt64).toNat = 10 from rfl, Nat.mod_eq_of_lt fits.2]

theorem line_eq {tenth : UInt64} (small : tenth.toNat ≤ 10) :
    log.line tenth = message log.task tenth.toNat := by
  have percent : (tenth * 10).toNat = 10 * tenth.toNat := by
    rw [UInt64.toNat_mul, show (10 : UInt64).toNat = 10 from rfl]
    omega
  rw [line, percent, message]

/-- The tenth that is complete after an increment and was not before. -/
def newTenth (total before after : Nat) : Option Nat :=
  if tenths total before < tenths total after then some (tenths total after) else none

theorem Stands.toNat_done (stands : log.Stands task total sum)
    (fits : Fits total.toNat (sum + units.toNat)) :
    (log.done + units).toNat = sum + units.toNat := by
  rw [UInt64.toNat_add, stands.done, Nat.mod_eq_of_lt fits.1]

theorem Stands.toNat_complete (stands : log.Stands task total sum)
    (fits : Fits total.toNat (sum + units.toNat)) :
    ({ log with done := log.done + units } : TenthLog).complete.toNat =
      tenths total.toNat (sum + units.toNat) := by
  have done := stands.toNat_done fits
  rw [TenthLog.toNat_complete (by rw [stands.sized, done]; exact fits), stands.sized, done]

theorem Stands.advance (stands : log.Stands task total sum)
    (fits : Fits total.toNat (sum + units.toNat)) :
    (log.advance units).1.Stands task total (sum + units.toNat) ∧
      (log.advance units).2 =
        (newTenth total.toNat sum (sum + units.toNat)).map (message task) := by
  have done := stands.toNat_done fits
  have complete := stands.toNat_complete fits
  have more := tenths_mono total.toNat (Nat.le_add_right sum units.toNat)
  unfold TenthLog.advance newTenth
  simp only [UInt64.lt_iff_toNat_lt, complete, stands.tenth]
  by_cases reached : tenths total.toNat sum < tenths total.toNat (sum + units.toNat)
  · rw [if_pos reached, if_pos reached]
    refine ⟨⟨stands.named, stands.sized, done, complete⟩, ?_⟩
    rw [line_eq (by rw [complete]; exact tenths_le _ _), complete, stands.named]
    rfl
  · rw [if_neg reached, if_neg reached]
    refine ⟨⟨stands.named, stands.sized, done, ?_⟩, rfl⟩
    rw [stands.tenth]
    omega

/-- The exact sum of increments. -/
def sumOf : List UInt64 → Nat
  | [] => 0
  | first :: rest => first.toNat + sumOf rest

@[simp] theorem sumOf_nil : sumOf [] = 0 := rfl

@[simp] theorem sumOf_cons (first : UInt64) (rest : List UInt64) :
    sumOf (first :: rest) = first.toNat + sumOf rest := rfl

theorem sumOf_take_mono (increments : List UInt64) {j i : Nat} (le : j ≤ i) :
    sumOf (increments.take j) ≤ sumOf (increments.take i) := by
  induction increments generalizing j i with
  | nil => simp
  | cons first rest ih =>
      cases j with
      | zero => simp
      | succ j =>
          cases i with
          | zero => contradiction
          | succ i => simpa using ih (Nat.le_of_succ_le_succ le)

theorem sumOf_take_le (increments : List UInt64) (i : Nat) :
    sumOf (increments.take i) ≤ sumOf increments := by
  have le := sumOf_take_mono increments (Nat.le_max_left i increments.length)
  rwa [List.take_of_length_le (Nat.le_max_right i _)] at le

/-- The new tenth after each increment, beginning at a sum. -/
def newTenths (total sum : Nat) : List UInt64 → List (Option Nat)
  | [] => []
  | first :: rest =>
    newTenth total sum (sum + first.toNat) :: newTenths total (sum + first.toNat) rest

/-- Increments add up, and new tenths are logged. -/
theorem Stands.run {increments : List UInt64} (stands : log.Stands task total sum)
    (fits : Fits total.toNat (sum + sumOf increments)) :
    (log.run (increments.map .advance)).1.Stands task total (sum + sumOf increments) ∧
      (log.run (increments.map .advance)).2 =
        (newTenths total.toNat sum increments).map (Option.map (message task)) := by
  induction increments generalizing log sum with
  | nil => exact ⟨stands, rfl⟩
  | cons first rest ih =>
      rw [sumOf_cons, ← Nat.add_assoc] at fits
      obtain ⟨next, line⟩ := stands.advance (fits.mono (Nat.le_add_right _ _))
      obtain ⟨last, lines⟩ := ih next fits
      rw [sumOf_cons, ← Nat.add_assoc]
      refine ⟨last, ?_⟩
      simp only [List.map_cons, TenthLog.run, answer, newTenths, line, lines]

section NewTenths

variable {size : Nat} {increments : List UInt64}

theorem length_newTenths : (newTenths size sum increments).length = increments.length := by
  induction increments generalizing sum with
  | nil => rfl
  | cons first rest ih => rw [newTenths, List.length_cons, List.length_cons, ih]

theorem newTenth_eq_some_iff {before after t : Nat} :
    newTenth size before after = some t ↔ tenths size before < t ∧ tenths size after = t := by
  unfold newTenth
  split
  · rw [Option.some.injEq]
    omega
  · next same =>
      refine iff_of_false (fun nothing => Option.some_ne_none _ nothing.symm) ?_
      rintro ⟨less, rfl⟩
      exact same less

theorem newTenth_eq_none_iff {before after : Nat} :
    newTenth size before after = none ↔ tenths size after ≤ tenths size before := by
  unfold newTenth
  split
  · next more => exact iff_of_false (Option.some_ne_none _) (Nat.not_le.mpr more)
  · next same => exact iff_of_true rfl (Nat.not_lt.mp same)

/-- A tenth is logged by the increment that reaches it. -/
theorem getElem?_newTenths {i t : Nat} :
    (newTenths size sum increments)[i]? = some (some t) ↔
      i < increments.length ∧ tenths size (sum + sumOf (increments.take i)) < t ∧
        tenths size (sum + sumOf (increments.take (i + 1))) = t := by
  induction increments generalizing i sum with
  | nil => simp [newTenths]
  | cons first rest ih =>
      cases i with
      | zero => simp [newTenths, newTenth_eq_some_iff]
      | succ i =>
          rw [newTenths, List.getElem?_cons_succ, ih, List.length_cons, List.take_succ_cons,
            List.take_succ_cons, sumOf_cons, sumOf_cons, Nat.add_assoc, Nat.add_assoc]
          simp

theorem bounds_of_mem {t : Nat} (logged : t ∈ (newTenths size sum increments).reduceOption) :
    tenths size sum < t ∧ t ≤ tenths size (sum + sumOf increments) := by
  obtain ⟨i, at_i⟩ := List.mem_iff_getElem?.mp (List.reduceOption_mem_iff.mp logged)
  obtain ⟨-, before, rfl⟩ := getElem?_newTenths.mp at_i
  constructor
  · exact Nat.lt_of_le_of_lt (tenths_mono size (Nat.le_add_right _ _)) before
  · exact tenths_mono size (Nat.add_le_add_left (sumOf_take_le increments (i + 1)) sum)

theorem pairwise_newTenths :
    (newTenths size sum increments).reduceOption.Pairwise (· < ·) := by
  induction increments generalizing sum with
  | nil => exact List.Pairwise.nil
  | cons first rest ih =>
      rw [newTenths]
      cases new : newTenth size sum (sum + first.toNat) with
      | none => exact ih
      | some t =>
          obtain ⟨-, rfl⟩ := newTenth_eq_some_iff.mp new
          exact List.Pairwise.cons (fun later logged => (bounds_of_mem logged).1) ih

/-- The last tenth that is logged, or else the one before all increments, is the one that is
    complete at the end. -/
theorem getLast?_newTenths :
    (newTenths size sum increments).reduceOption.getLast?.getD (tenths size sum) =
      tenths size (sum + sumOf increments) := by
  induction increments generalizing sum with
  | nil => rfl
  | cons first rest ih =>
      rw [newTenths, sumOf_cons, ← Nat.add_assoc, ← ih]
      cases new : newTenth size sum (sum + first.toNat) with
      | none =>
          have same : tenths size sum = tenths size (sum + first.toNat) :=
            Nat.le_antisymm (tenths_mono size (Nat.le_add_right _ _)) (newTenth_eq_none_iff.mp new)
          rw [List.reduceOption_cons_of_none, same]
      | some t =>
          obtain ⟨-, rfl⟩ := newTenth_eq_some_iff.mp new
          rw [List.reduceOption_cons_of_some, List.getLast?_cons, Option.getD_some]

end NewTenths

/-- The tenths that are logged while increments are made to a task of a size, with at most one for
    each increment: the tenths are logged when they are reached, they go up, and the last one tells
    what is done. -/
structure Ascends (size : Nat) (increments : List UInt64) (steps : List (Option Nat)) : Prop where
  length : steps.length = increments.length
  reached : ∀ i t, steps[i]? = some (some t) ↔ i < increments.length ∧
    (∀ j ≤ i, tenths size (sumOf (increments.take j)) < t) ∧
      tenths size (sumOf (increments.take (i + 1))) = t
  increasing : steps.reduceOption.Pairwise (· < ·)
  bounds : ∀ t ∈ steps.reduceOption, 1 ≤ t ∧ t ≤ 10
  last : steps.reduceOption.getLast? =
    if tenths size (sumOf increments) = 0 then none else some (tenths size (sumOf increments))
  whole : 10 ∈ steps.reduceOption ↔ 0 < size ∧ size ≤ sumOf increments
  empty : size = 0 → steps.reduceOption = []

theorem ascends_newTenths (size : Nat) (increments : List UInt64) :
    Ascends size increments (newTenths size 0 increments) := by
  have bounds {t : Nat} (logged : t ∈ (newTenths size 0 increments).reduceOption) :
      0 < t ∧ t ≤ tenths size (sumOf increments) := by
    have between := bounds_of_mem logged
    rwa [tenths_of_nothing, Nat.zero_add] at between
  have last : (newTenths size 0 increments).reduceOption.getLast? =
      if tenths size (sumOf increments) = 0 then none
      else some (tenths size (sumOf increments)) := by
    have final : (newTenths size 0 increments).reduceOption.getLast?.getD (tenths size 0) =
        tenths size (0 + sumOf increments) := getLast?_newTenths
    rw [tenths_of_nothing, Nat.zero_add] at final
    rw [← final]
    cases found : (newTenths size 0 increments).reduceOption.getLast? with
    | none => rfl
    | some t =>
        have positive := (bounds (List.mem_of_getLast? found)).1
        rw [Option.getD_some, if_neg (Nat.ne_of_gt positive)]
  constructor
  case length => exact length_newTenths
  case reached =>
    intro i t
    rw [getElem?_newTenths]
    simp only [Nat.zero_add]
    constructor
    · rintro ⟨inside, before, at_t⟩
      exact ⟨inside, fun j le => Nat.lt_of_le_of_lt
        (tenths_mono size (sumOf_take_mono increments le)) before, at_t⟩
    · rintro ⟨inside, before, at_t⟩
      exact ⟨inside, before i (Nat.le_refl i), at_t⟩
  case increasing => exact pairwise_newTenths
  case bounds =>
    intro t logged
    exact ⟨(bounds logged).1, Nat.le_trans (bounds logged).2 (tenths_le _ _)⟩
  case last => exact last
  case whole =>
    rw [← tenths_eq_ten]
    constructor
    · intro logged
      exact Nat.le_antisymm (tenths_le _ _) (bounds logged).2
    · intro all
      rw [all, if_neg (by decide)] at last
      exact List.mem_of_getLast? last
  case empty =>
    rintro rfl
    rw [tenths_of_empty, if_pos rfl] at last
    exact List.getLast?_eq_none_iff.mp last

/-- The sum of two words, if it is a word. -/
def sum? (a b : UInt64) : Option UInt64 :=
  if a.toNat + b.toNat < UInt64.size then some (a + b) else none

/-- The product of two words, if it is a word. -/
def product? (a b : UInt64) : Option UInt64 :=
  if a.toNat * b.toNat < UInt64.size then some (a * b) else none

def quotient? (a b : UInt64) : Option UInt64 := if b = 0 then none else some (a / b)

/-- An increment whose arithmetic fails where a word overflows or a divisor is zero. -/
def advance? (log : TenthLog) (units : UInt64) : Option (TenthLog × Option String) :=
  (sum? log.done units).bind fun done =>
    if log.total = 0 then some ({ log with done }, none)
    else
      (product? (min done log.total) 10).bind fun scaled =>
        (quotient? scaled log.total).bind fun tenth =>
          if log.tenth < tenth then
            (product? tenth 10).map fun _ => ({ log with done, tenth }, some (log.line tenth))
          else some ({ log with done }, none)

def run? (log : TenthLog) : List Call → Option (TenthLog × List (Option String))
  | [] => some (log, [])
  | .begin task total :: rest =>
    ((begin task total).run? rest).map fun later => (later.1, some task :: later.2)
  | .advance units :: rest =>
    (log.advance? units).bind fun next =>
      (next.1.run? rest).map fun later => (later.1, next.2 :: later.2)

theorem Stands.advance?_eq (stands : log.Stands task total sum)
    (fits : Fits total.toNat (sum + units.toNat)) :
    log.advance? units = some (log.advance units) := by
  have done := stands.toNat_done fits
  have added : sum? log.done units = some (log.done + units) :=
    if_pos (by rw [stands.done]; exact fits.1)
  rw [advance?, added, Option.bind_some, TenthLog.advance]
  dsimp only
  by_cases empty : log.total = 0
  · have none_complete : ({ log with done := log.done + units } : TenthLog).complete = 0 :=
      if_pos empty
    rw [if_pos empty, none_complete, if_neg (by simp)]
  · have complete : ({ log with done := log.done + units } : TenthLog).complete =
        min (log.done + units) log.total * 10 / log.total := if_neg empty
    have scaled : product? (min (log.done + units) log.total) 10 =
        some (min (log.done + units) log.total * 10) := by
      refine if_pos ?_
      rw [toNat_min, done, stands.sized, Nat.mul_comm]
      exact fits.2
    have divided : quotient? (min (log.done + units) log.total * 10) log.total =
        some (min (log.done + units) log.total * 10 / log.total) := if_neg empty
    rw [if_neg empty, scaled, Option.bind_some, divided, Option.bind_some, ← complete]
    split
    · have percent : product? ({ log with done := log.done + units } : TenthLog).complete 10 =
          some (({ log with done := log.done + units } : TenthLog).complete * 10) := by
        refine if_pos ?_
        rw [stands.toNat_complete fits]
        exact Nat.lt_of_le_of_lt (Nat.mul_le_mul_right 10 (tenths_le _ _)) (by decide)
      rw [percent]
      rfl
    · rfl

theorem Stands.run?_eq {increments : List UInt64} (stands : log.Stands task total sum)
    (fits : Fits total.toNat (sum + sumOf increments)) :
    log.run? (increments.map .advance) = some (log.run (increments.map .advance)) := by
  induction increments generalizing log sum with
  | nil => rfl
  | cons first rest ih =>
      rw [sumOf_cons, ← Nat.add_assoc] at fits
      have now : Fits total.toNat (sum + first.toNat) := fits.mono (Nat.le_add_right _ _)
      rw [List.map_cons, run?, stands.advance?_eq now, Option.bind_some,
        ih (stands.advance now).1 fits]
      rfl

/-- From its beginning a task is logged as if nothing had been before. While its numbers fit, the
    sum of the increments is exact, each tenth is logged when it is reached and none of them twice,
    and the arithmetic is that of the numbers. -/
theorem run_task (log : TenthLog) (history : List Call) (task : String) (total : UInt64) :
    (∀ increments : List UInt64, Fits total.toNat (sumOf increments) →
      let calls := .begin task total :: increments.map .advance
      let after := log.run (history ++ calls)
      after.1.done.toNat = sumOf increments ∧
        (∃ steps, Ascends total.toNat increments steps ∧
          after.2 = (log.run history).2 ++ some task :: steps.map (Option.map (message task))) ∧
          ∀ other : TenthLog, other.run? calls = some (other.run calls)) ∧
      ∀ (rest : List Call) (other : TenthLog),
        let calls := .begin task total :: rest
        log.run (history ++ calls) =
          ((other.run calls).1, (log.run history).2 ++ (other.run calls).2) := by
  have fresh (log other : TenthLog) (rest : List Call) :
      log.run (.begin task total :: rest) = other.run (.begin task total :: rest) := rfl
  constructor
  · intro increments fits calls after
    have stands := stands_begin task total
    rw [← Nat.zero_add (sumOf increments)] at fits
    obtain ⟨last, lines⟩ := stands.run fits
    have all : after = (((begin task total).run (increments.map .advance)).1,
        (log.run history).2 ++ some task ::
          ((begin task total).run (increments.map .advance)).2) := run_append log history calls
    rw [all]
    refine ⟨last.done.trans (Nat.zero_add _), ⟨_, ascends_newTenths _ _, ?_⟩, fun other => ?_⟩
    · rw [lines]
    · rw [run?, stands.run?_eq fits]
      rfl
  · intro rest other calls
    rw [run_append, fresh _ other]

/-- A task of a hundred that grows to more, and one so large that ten times its size is almost no
    word. What came before has overflowed. -/
theorem run_task_overshoot :
    let history : List Call := [.begin "past" 3, .advance 18446744073709551615, .advance 2]
    let shops := Call.begin "shops" 100 :: [0, 35, 4, 0, 1000].map .advance
    let stops := Call.begin "stops" 1844674407370955161 :: [1844674407370955160].map .advance
    Fits 100 1039 ∧
      (({} : TenthLog).run (history ++ shops)).1.done = 1039 ∧
        (({} : TenthLog).run (history ++ shops)).2.reduceOption =
          ["past", "past: 100%", "shops", "shops: 30%", "shops: 100%"] ∧
          (({} : TenthLog).run? stops).map (·.2) = some [some "stops", some "stops: 90%"] := by
  intro history shops stops
  have fits : Fits (100 : UInt64).toNat (sumOf [0, 35, 4, 0, 1000]) := by decide
  have fits' : Fits (1844674407370955161 : UInt64).toNat (sumOf [1844674407370955160]) := by
    decide
  obtain ⟨done, -, -⟩ := (run_task {} history "shops" 100).1 _ fits
  have lines := (run_task {} history "shops" 100).2 ([0, 35, 4, 0, 1000].map .advance) {}
  have checked := ((run_task {} [] "stops" 1844674407370955161).1 _ fits').2.2 {}
  refine ⟨fits, UInt64.toNat_inj.mp done, ?_, ?_⟩
  · rw [show ({} : TenthLog).run (history ++ shops) = _ from lines]
    decide +kernel
  · rw [show ({} : TenthLog).run? stops = _ from checked]
    decide +kernel

end TenthLog

namespace TenthLog

/-- What a listener hears is what the log is told. -/
def Call.ofEvent : Progress.Event → Call
  | .begin description total => .begin description (UInt64.ofNat total)
  | .advance octets => .advance (UInt64.ofNat octets)

/-- The log hears an event. The lines are kept backwards. -/
def hear (state : TenthLog × List String) (event : Progress.Event) : TenthLog × List String :=
  let (next, line) := state.1.answer (.ofEvent event)
  (next, line.toList ++ state.2)

theorem foldl_hear (events : List Progress.Event) (log : TenthLog) (lines : List String) :
    events.foldl hear (log, lines) =
      ((log.run (events.map .ofEvent)).1,
        (log.run (events.map .ofEvent)).2.reduceOption.reverse ++ lines) := by
  induction events generalizing log lines with
  | nil => rfl
  | cons event rest ih =>
      rw [List.foldl_cons, hear, ih, List.map_cons, run]
      obtain ⟨next, line⟩ := log.answer (.ofEvent event)
      cases line with
      | none => simp
      | some line => simp

end TenthLog

theorem CommandLine.progressLines_eq_run (session : Session) :
    progressLines session =
      (({} : TenthLog).run
        ((session.progress.getD #[]).toList.map .ofEvent)).2.reduceOption.map
          fun text => ⟨.info, text⟩ := by
  have heard : progressLines session =
      (((session.progress.getD #[]).toList.foldl TenthLog.hear ({}, [])).2.reverse.map
        fun text => ⟨.info, text⟩) := by
    unfold progressLines
    dsimp only
    congr
    funext state event
    cases event with
    | begin | advance => rfl
  rw [heard, TenthLog.foldl_hear, List.append_nil, List.reverse_reverse]

end TransitFeed
