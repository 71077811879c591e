import Mathlib.Data.Nat.Log
import Mathlib.Tactic.Ring
import TransitFeed.Number.DoubleText
import TransitFeed.Number.Shortest
import TransitFeed.Proofs.Number.DecimalText

/-! # Shortest decimals tell doubles apart

Between the bounds of every magnitude lies a point of one of the grids that are tried, and the
intervals of different magnitudes have no number in common. So the decimal of a double determines
it, and the text determines the decimal.
-/

namespace TransitFeed

namespace Double

/-- The distance from a magnitude to the next smaller one. -/
def gapBelow (units : Nat) : Nat :=
  if units = twoTo units.log2 ∧ 52 < units.log2 then gap units / 2 else gap units

theorem gap_pos (units : Nat) : 0 < gap units := twoTo_pos _

section Neighbours

variable {u v : Nat}

theorem log2_mono (le : u ≤ v) : u.log2 ≤ v.log2 := by
  rw [Nat.log2_eq_log_two, Nat.log2_eq_log_two]
  exact Nat.log_mono_right le

theorem gap_dvd_gap (le : u ≤ v) : gap u ∣ gap v :=
  twoTo_dvd_twoTo (Nat.sub_le_sub_right (log2_mono le) 52)

theorem add_gap_le (gaps : gap u ∣ u) (gaps' : gap v ∣ v) (less : u < v) : u + gap u ≤ v := by
  have divides : gap u ∣ v - u :=
    Nat.dvd_sub (Nat.dvd_trans (gap_dvd_gap (Nat.le_of_lt less)) gaps') gaps
  have := Nat.le_of_dvd (Nat.sub_pos_of_lt less) divides
  omega

theorem gapBelow_of_power (power : v = twoTo v.log2) (high : 52 < v.log2) :
    gapBelow v = twoTo (v.log2 - 53) := by
  have half : twoTo (v.log2 - 52) = twoTo (v.log2 - 53) * 2 := by
    rw [← twoTo_succ]
    congr 1
    omega
  rw [gapBelow, if_pos ⟨power, high⟩, gap, half, Nat.mul_div_cancel _ (by decide)]

theorem add_gapBelow_le (gaps : gap u ∣ u) (gaps' : gap v ∣ v) (less : u < v) :
    u + gapBelow v ≤ v := by
  have nonzero : v ≠ 0 := Nat.ne_of_gt (Nat.lt_of_le_of_lt (Nat.zero_le u) less)
  have lowest : twoTo v.log2 ≤ v := Nat.log2_self_le nonzero
  by_cases power : v = twoTo v.log2 ∧ 52 < v.log2
  · -- Below a power of two the gap of the smaller magnitudes is half as wide.
    rw [gapBelow_of_power power.1 power.2]
    have half : v = twoTo (v.log2 - 1) * 2 := by
      rw [← twoTo_succ, Nat.sub_add_cancel (by omega)]
      exact power.1
    have small : twoTo (v.log2 - 53) ≤ twoTo (v.log2 - 1) := twoTo_le_twoTo (by omega)
    rcases Nat.lt_or_ge u (twoTo (v.log2 - 1)) with far | near
    · omega
    · have positive : u ≠ 0 := Nat.ne_of_gt (Nat.lt_of_lt_of_le (twoTo_pos _) near)
      have bits : v.log2 - 1 ≤ u.log2 := (Nat.le_log2 positive).mpr near
      have wide : twoTo (v.log2 - 53) ≤ gap u := twoTo_le_twoTo (by omega)
      have := add_gap_le gaps gaps' less
      omega
  · rw [gapBelow, if_neg power]
    rcases Nat.lt_or_ge u (twoTo v.log2) with before | same
    · rcases Nat.eq_or_lt_of_le lowest with start | behind
      · -- A small power of two has neighbours at a distance of one unit.
        have one : gap v = 1 := by
          rw [gap, show v.log2 - 52 = 0 by omega, twoTo_zero]
        omega
      · have divides : gap v ∣ v - twoTo v.log2 :=
          Nat.dvd_sub gaps' (twoTo_dvd_twoTo (Nat.sub_le _ _))
        have := Nat.le_of_dvd (Nat.sub_pos_of_lt behind) divides
        omega
    · have positive : u ≠ 0 := Nat.ne_of_gt (Nat.lt_of_lt_of_le (twoTo_pos _) same)
      have bits : u.log2 = v.log2 :=
        Nat.le_antisymm (log2_mono (Nat.le_of_lt less)) ((Nat.le_log2 positive).mpr same)
      have even : gap v = gap u := by rw [gap, gap, bits]
      rw [even]
      exact add_gap_le gaps gaps' less

theorem gapBelow_le_gap (units : Nat) : gapBelow units ≤ gap units := by
  unfold gapBelow
  split
  · exact Nat.div_le_self _ _
  · exact Nat.le_refl _

/-- Half the gaps above and below two magnitudes meet in the middle only if one of the bounds is
    open there. -/
theorem odd_of_meet (gaps : gap u ∣ u) (meet : v = u + gap u)
    (same : gapBelow v = gap u) : u / gap u % 2 = 1 ∨ v / gap v % 2 = 1 := by
  have positive := gap_pos u
  obtain ⟨a, steps⟩ := gaps
  have next : v = gap u * (a + 1) := by rw [Nat.mul_succ, ← steps, ← meet]
  have first : u / gap u = a := Nat.div_eq_of_eq_mul_right positive steps
  by_cases power : v = twoTo v.log2 ∧ 52 < v.log2
  · -- The bits of the smaller one are all ones.
    rw [gapBelow_of_power power.1 power.2] at same
    have whole : twoTo (v.log2 - 53) * (a + 1) = twoTo (v.log2 - 53) * twoTo 53 := by
      rw [← twoTo_add, show v.log2 - 53 + 53 = v.log2 by omega, ← power.1, same, ← next]
    have ones : a + 1 = twoTo 53 := Nat.eq_of_mul_eq_mul_left (twoTo_pos _) whole
    refine Or.inl ?_
    rw [first]
    have even : twoTo 53 % 2 = 0 := by decide
    omega
  · rw [gapBelow, if_neg power] at same
    have second : v / gap v = a + 1 := by
      rw [same]
      exact Nat.div_eq_of_eq_mul_right positive next
    rw [first, second]
    omega

end Neighbours

namespace Interval

variable {u v num den num' den' : Nat}

theorem around_eq (units : Nat) :
    around units =
      ⟨4 * units - 2 * gapBelow units, 4 * units + 2 * gap units, units / gap units % 2 = 0⟩ := rfl

theorem contains_congr {i : Interval} (positive : 0 < den) (positive' : 0 < den')
    (same : num * den' = num' * den) : i.contains num den = i.contains num' den' := by
  have le (bound : Nat) : bound * den ≤ num ↔ bound * den' ≤ num' := by
    refine (Nat.mul_le_mul_right_iff positive').symm.trans ?_
    rw [same, Nat.mul_right_comm]
    exact Nat.mul_le_mul_right_iff positive
  have ge (bound : Nat) : num ≤ bound * den ↔ num' ≤ bound * den' := by
    refine (Nat.mul_le_mul_right_iff positive').symm.trans ?_
    rw [same, Nat.mul_right_comm]
    exact Nat.mul_le_mul_right_iff positive
  unfold contains
  simp only [← Nat.not_le, le, ge]

theorem le_of_contains {i : Interval} (inside : i.contains num den = true) :
    i.low * den ≤ num ∧ num ≤ i.high * den := by
  unfold contains at inside
  split at inside
  · simpa using inside
  · have strict : i.low * den < num ∧ num < i.high * den := by simpa using inside
    omega

theorem closed_of_contains {i : Interval} (inside : i.contains num den = true)
    (bound : num = i.low * den ∨ num = i.high * den) : i.closed = true := by
  unfold contains at inside
  split at inside
  · next closed => exact closed
  · have strict : i.low * den < num ∧ num < i.high * den := by simpa using inside
    omega

theorem contains_of_lt {i : Interval} (above : i.low * den < num) (below : num < i.high * den) :
    i.contains num den = true := by
  unfold contains
  split
  · simp [Nat.le_of_lt above, Nat.le_of_lt below]
  · simp [above, below]

theorem not_contains_of_lt (gaps : gap u ∣ u) (gaps' : gap v ∣ v) (less : u < v)
    (positive : 0 < den) (inside : (around u).contains num den = true)
    (inside' : (around v).contains num den = true) : False := by
  have next := add_gap_le gaps gaps' less
  have before := add_gapBelow_le gaps gaps' less
  obtain ⟨-, most⟩ := le_of_contains inside
  obtain ⟨least, -⟩ := le_of_contains inside'
  simp only [around_eq] at most least
  have order : 4 * v - 2 * gapBelow v ≤ 4 * u + 2 * gap u :=
    Nat.le_of_mul_le_mul_right (Nat.le_trans least most) positive
  -- The bounds touch, so both of them belong to their intervals.
  have touch : 4 * v - 2 * gapBelow v = 4 * u + 2 * gap u := by omega
  rw [touch] at least
  have bound : num = (4 * u + 2 * gap u) * den := Nat.le_antisymm most least
  have closed := closed_of_contains inside (Or.inr bound)
  have bound' : num = (around v).low * den := by rw [around_eq, bound, ← touch]
  have closed' := closed_of_contains inside' (Or.inl bound')
  rw [around_eq, decide_eq_true_iff] at closed closed'
  have meet : v = u + gap u := by omega
  have same : gapBelow v = gap u := by omega
  rcases odd_of_meet gaps meet same with odd | odd
  · rw [closed] at odd
    contradiction
  · rw [closed'] at odd
    contradiction

/-- No number rounds to two magnitudes. -/
theorem around_disjoint (gaps : gap u ∣ u) (gaps' : gap v ∣ v) (positive : 0 < den)
    (inside : (around u).contains num den = true)
    (inside' : (around v).contains num den = true) : u = v := by
  rcases Nat.lt_trichotomy u v with less | same | greater
  · exact (not_contains_of_lt gaps gaps' less positive inside inside').elim
  · exact same
  · exact (not_contains_of_lt gaps' gaps greater positive inside' inside).elim

end Interval

section Grids

variable {units : Nat} (tie : Tie) (exponent : Int)

theorem powerOfTen_pos : 0 < (powerOfTen exponent).1 ∧ 0 < (powerOfTen exponent).2 := by
  cases exponent with
  | ofNat e => exact ⟨tenTo_pos e, Nat.one_pos⟩
  | negSucc e => exact ⟨Nat.one_pos, tenTo_pos (e + 1)⟩

/-- How far apart the points of a grid are, in units over a denominator. -/
def gridStep (exponent : Int) : Nat := (powerOfTen exponent).1 * unitsPerOne

/-- A point that is found lies in the interval. -/
theorem contains_gridPoint {n : Nat} (found : gridPoint? tie units exponent = some n) :
    (Interval.around units).contains (4 * n * gridStep exponent) (powerOfTen exponent).2 =
      true := by
  unfold gridPoint? at found
  unfold gridStep
  generalize powerOfTen exponent = power at found ⊢
  obtain ⟨num, den⟩ := power
  dsimp only at found ⊢
  generalize num * unitsPerOne = step at found ⊢
  generalize units * den / step = below at found
  split at found
  · contradiction
  · next inside _ =>
    obtain rfl := Option.some.inj found
    exact inside
  · next inside =>
    obtain rfl := Option.some.inj found
    exact inside
  · next first second =>
    split at found
    · obtain rfl := Option.some.inj found
      exact first
    · split at found
      · obtain rfl := Option.some.inj found
        exact second
      · cases tie with
        | away =>
            obtain rfl := Option.some.inj found
            exact second
        | even =>
            obtain rfl := Option.some.inj found
            rcases Nat.mod_two_eq_zero_or_one below with even | odd
            · rw [even, Nat.add_zero]
              exact first
            · rw [odd]
              exact second

/-- A grid that is fine enough has a point in the interval: the last one up to the magnitude. -/
theorem isSome_gridPoint
    (fine : 2 * gridStep exponent ≤ gapBelow units * (powerOfTen exponent).2)
    (room : gapBelow units ≤ units) : (gridPoint? tie units exponent).isSome = true := by
  obtain ⟨positive, positive'⟩ := powerOfTen_pos exponent
  have spaced : 0 < gridStep exponent := Nat.mul_pos positive (twoTo_pos 1074)
  unfold gridPoint?
  unfold gridStep at fine spaced
  generalize powerOfTen exponent = power at fine spaced positive' ⊢
  obtain ⟨num, den⟩ := power
  dsimp only at fine spaced positive' ⊢
  generalize num * unitsPerOne = step at fine spaced ⊢
  have last : units * den / step * step + units * den % step = units * den :=
    Nat.div_add_mod' _ _
  have rest : units * den % step < step := Nat.mod_lt _ spaced
  generalize units * den / step = below at last ⊢
  have inside : (Interval.around units).contains (4 * below * step) den = true := by
    have wide : 0 < gap units * den := Nat.mul_pos (gap_pos units) positive'
    have some_room : gapBelow units * den ≤ units * den := Nat.mul_le_mul_right den room
    refine Interval.contains_of_lt ?_ ?_
    · rw [Interval.around_eq, Nat.mul_sub_right_distrib, Nat.mul_assoc, Nat.mul_assoc,
        Nat.mul_assoc]
      omega
    · rw [Interval.around_eq, Nat.add_mul, Nat.mul_assoc, Nat.mul_assoc, Nat.mul_assoc]
      omega
  rw [inside]
  split
  · next outside _ => contradiction
  · rfl
  · next outside _ => contradiction
  · split
    · rfl
    · split
      · rfl
      · cases tie <;> rfl

end Grids

theorem tenTo_le_twoTo (n : Nat) : tenTo (28 * n) ≤ twoTo (94 * n) := by
  induction n with
  | zero => exact Nat.le_refl 1
  | succ n ih =>
      rw [Nat.mul_succ, Nat.mul_succ, twoTo_add, tenTo_add]
      exact Nat.mul_le_mul ih (by decide)

theorem tenTo_pow (e n : Nat) : tenTo e ^ n = tenTo (n * e) := by
  rw [Nat.mul_comm]
  exact (Nat.pow_mul 10 e n).symm

theorem twoTo_pow (k n : Nat) : twoTo k ^ n = twoTo (n * k) := by
  rw [Nat.mul_comm]
  exact (Nat.pow_mul 2 k n).symm

theorem tenTo_le_twoTo_of {e k : Nat} (enough : 94 * e ≤ 28 * k) : tenTo e ≤ twoTo k := by
  refine (Nat.pow_le_pow_iff_left (by decide : 28 ≠ 0)).mp ?_
  rw [tenTo_pow, twoTo_pow]
  exact Nat.le_trans (tenTo_le_twoTo e) (twoTo_le_twoTo enough)

theorem twoTo_le_tenTo_of {e k : Nat} (enough : 28 * k ≤ 93 * e) : twoTo k ≤ tenTo e := by
  refine (Nat.pow_le_pow_iff_left (by decide : 28 ≠ 0)).mp ?_
  rw [tenTo_pow, twoTo_pow]
  exact Nat.le_trans (twoTo_le_twoTo enough) (twoTo_le_tenTo e)

/-- The exponent of the first grid that is tried. -/
def firstExponent (log : Nat) : Int := ((log : Int) - 1074) * 30103 / 100000 + 3

theorem gridStep_last {log : Nat} (small : log < 2098) :
    2 * gridStep (firstExponent log - 23) ≤
      twoTo (log - 53) * (powerOfTen (firstExponent log - 23)).2 := by
  have twice : 2 * unitsPerOne = twoTo 1075 := by
    rw [unitsPerOne, Nat.mul_comm, ← twoTo_succ]
  unfold gridStep
  generalize unitsPerOne = one at twice ⊢
  cases last : firstExponent log - 23 with
  | ofNat e =>
      have last' : ((log : Int) - 1074) * 30103 / 100000 + 3 - 23 = e := last
      have fine : tenTo e ≤ twoTo (log - 1128) := tenTo_le_twoTo_of (by omega)
      calc
        2 * (tenTo e * one) = tenTo e * twoTo 1075 := by rw [Nat.mul_left_comm, twice]
        _ ≤ twoTo (log - 1128) * twoTo 1075 := Nat.mul_le_mul_right _ fine
        _ = twoTo (log - 53) * 1 := by
          rw [← twoTo_add, Nat.mul_one]
          congr 1
          omega
  | negSucc e =>
      have last' : ((log : Int) - 1074) * 30103 / 100000 + 3 - 23 = -((e : Int) + 1) := by
        rw [← Int.negSucc_eq]
        exact last
      have fine : twoTo (1075 - (log - 53)) ≤ tenTo (e + 1) := twoTo_le_tenTo_of (by omega)
      calc
        2 * (1 * one) = twoTo 1075 := by rw [Nat.one_mul, twice]
        _ ≤ twoTo (log - 53) * twoTo (1075 - (log - 53)) := by
          rw [← twoTo_add]
          exact twoTo_le_twoTo (by omega)
        _ ≤ twoTo (log - 53) * tenTo (e + 1) := Nat.mul_le_mul_left _ fine

theorem twoTo_le_gapBelow (units : Nat) : twoTo (units.log2 - 53) ≤ gapBelow units := by
  by_cases power : units = twoTo units.log2 ∧ 52 < units.log2
  · exact Nat.le_of_eq (gapBelow_of_power power.1 power.2).symm
  · rw [gapBelow, if_neg power]
    exact twoTo_le_twoTo (by omega)

theorem contains_shortest (tie : Tie) {units : Nat} (r : Representable units)
    (nonzero : units ≠ 0) :
    (Interval.around units).contains
      (4 * (shortest tie units).1 * gridStep (shortest tie units).2)
      (powerOfTen (shortest tie units).2).2 = true := by
  let point? (i : Nat) : Option (Nat × Int) :=
    (gridPoint? tie units (firstExponent units.log2 - i)).map fun n =>
      (n, firstExponent units.log2 - (i : Int))
  have chosen : shortest tie units = ((List.range 24).findSome? point?).getD (0, 0) := rfl
  have bits : units.log2 < 2098 := (log2_lt_iff nonzero).mpr r.2
  have room : gapBelow units ≤ units :=
    Nat.le_trans (gapBelow_le_gap units) (Nat.le_of_dvd (Nat.pos_of_ne_zero nonzero) r.1)
  have fine : 2 * gridStep (firstExponent units.log2 - 23) ≤
      gapBelow units * (powerOfTen (firstExponent units.log2 - 23)).2 :=
    Nat.le_trans (gridStep_last bits) (Nat.mul_le_mul_right _ (twoTo_le_gapBelow units))
  have last : (point? 23).isSome = true := by
    rw [Option.isSome_map]
    exact isSome_gridPoint tie _ fine room
  have some_grid : ((List.range 24).findSome? point?).isSome = true :=
    List.findSome?_isSome_iff.mpr ⟨23, by decide, last⟩
  obtain ⟨found, first⟩ := Option.isSome_iff_exists.mp some_grid
  obtain ⟨i, -, here⟩ := List.exists_of_findSome?_eq_some first
  obtain ⟨n, point, rfl⟩ := Option.map_eq_some_iff.mp here
  rw [chosen, first, Option.getD_some]
  exact contains_gridPoint tie _ point

theorem cast_powerOfTen (exponent : Int) :
    ((powerOfTen exponent).1 : ℚ) / (powerOfTen exponent).2 = 10 ^ exponent := by
  cases exponent with
  | ofNat e => simp [powerOfTen, tenTo]
  | negSucc e => simp [powerOfTen, tenTo, zpow_negSucc]

end Double

/-- The magnitude of a decimal. -/
def Decimal.value (d : Decimal) : ℚ := d.digits * 10 ^ d.exponent

namespace Double

variable {u v : Nat}

theorem shortest_injective (tie : Tie) (r : Representable u) (r' : Representable v)
    (nonzero : u ≠ 0) (nonzero' : v ≠ 0)
    (same : ((shortest tie u).1 : ℚ) * 10 ^ (shortest tie u).2 =
      (shortest tie v).1 * 10 ^ (shortest tie v).2) : u = v := by
  have inside := contains_shortest tie r nonzero
  have inside' := contains_shortest tie r' nonzero'
  generalize shortest tie u = a at same inside
  generalize shortest tie v = b at same inside'
  obtain ⟨n, e⟩ := a
  obtain ⟨m, f⟩ := b
  dsimp only at same inside inside'
  obtain ⟨-, positive⟩ := powerOfTen_pos e
  obtain ⟨-, positive'⟩ := powerOfTen_pos f
  rw [← cast_powerOfTen, ← cast_powerOfTen] at same
  unfold gridStep at inside inside'
  generalize powerOfTen e = p at same inside positive
  generalize powerOfTen f = q at same inside' positive'
  have nonzero_den : (p.2 : ℚ) ≠ 0 := Nat.cast_ne_zero.mpr (Nat.ne_of_gt positive)
  have nonzero_den' : (q.2 : ℚ) ≠ 0 := Nat.cast_ne_zero.mpr (Nat.ne_of_gt positive')
  rw [← mul_div_assoc, ← mul_div_assoc, div_eq_div_iff nonzero_den nonzero_den'] at same
  have crossed : n * p.1 * q.2 = m * q.1 * p.2 := by exact_mod_cast same
  have equal : 4 * n * (p.1 * unitsPerOne) * q.2 = 4 * m * (q.1 * unitsPerOne) * p.2 := by
    generalize unitsPerOne = one
    calc
      4 * n * (p.1 * one) * q.2 = 4 * one * (n * p.1 * q.2) := by ring
      _ = 4 * one * (m * q.1 * p.2) := by rw [crossed]
      _ = 4 * m * (q.1 * one) * p.2 := by ring
  rw [Interval.contains_congr positive positive' equal] at inside
  exact Interval.around_disjoint r.1 r'.1 positive' inside inside'

theorem shortest_pos (tie : Tie) (r : Representable u) (nonzero : u ≠ 0) :
    0 < (shortest tie u).1 := by
  have inside := (Interval.le_of_contains (contains_shortest tie r nonzero)).1
  have room : gapBelow u ≤ u :=
    Nat.le_trans (gapBelow_le_gap u) (Nat.le_of_dvd (Nat.pos_of_ne_zero nonzero) r.1)
  obtain ⟨-, positive⟩ := powerOfTen_pos (shortest tie u).2
  refine Nat.pos_of_ne_zero fun none_left => ?_
  rw [none_left, Nat.mul_zero, Nat.zero_mul, Interval.around_eq] at inside
  have low : 0 < 4 * u - 2 * gapBelow u := by omega
  exact absurd inside (Nat.not_le.mpr (Nat.mul_pos low positive))

end Double

namespace Decimal

open Digits

variable {whole fraction tail : List Char}

theorem ofUnsigned?_point (negative : Bool) (digits : ∀ c ∈ whole, c.isDigit = true)
    (nonempty : whole ≠ []) (digits' : ∀ c ∈ fraction, c.isDigit = true)
    (ends : tail.takeWhile Char.isDigit = []) :
    ofUnsigned? negative (whole ++ '.' :: (fraction ++ tail)) =
      (exponent? tail).map fun e =>
        ⟨negative, Nat.ofDigitChars 10 (whole ++ fraction) 0, e - fraction.length⟩ := by
  have first : (whole ++ '.' :: (fraction ++ tail)).span Char.isDigit =
      (whole, '.' :: (fraction ++ tail)) := span_isDigit digits rfl
  have second : (fraction ++ tail).span Char.isDigit = (fraction, tail) :=
    span_isDigit digits' ends
  have begun : whole.isEmpty = false := List.isEmpty_eq_false_iff.mpr nonempty
  simp only [ofUnsigned?, first, second, begun, Bool.false_and, Bool.false_eq_true, if_false]

theorem ofUnsigned?_whole (negative : Bool) (digits : ∀ c ∈ whole, c.isDigit = true)
    (nonempty : whole ≠ []) (ends : tail.takeWhile Char.isDigit = [])
    (pointless : ∀ rest, tail ≠ '.' :: rest) :
    ofUnsigned? negative (whole ++ tail) =
      (exponent? tail).map fun e => ⟨negative, Nat.ofDigitChars 10 whole 0, e⟩ := by
  have first : (whole ++ tail).span Char.isDigit = (whole, tail) := span_isDigit digits ends
  have begun : whole.isEmpty = false := List.isEmpty_eq_false_iff.mpr nonempty
  unfold ofUnsigned?
  simp only [first]
  simp [begun]

theorem exponent?_power (power : Int) :
    exponent? ('e' :: (if power < 0 then '-' else '+') :: ofNat power.natAbs) = some power := by
  have digits : value? (ofNat power.natAbs) = some power.natAbs := by
    rw [← padded_zero_width]
    exact value?_padded 0 _
  rw [exponent?, if_pos (Or.inl rfl)]
  split
  · rw [signed?, digits]
    exact congrArg some (by omega : -(power.natAbs : Int) = power)
  · rw [signed?, digits]
    exact congrArg some (by omega : (power.natAbs : Int) = power)

section Magnitude

variable (negative : Bool) {digits : List Char} {exponent : Int}

theorem value_zeros (pointed : Bool) (all : ∀ c ∈ digits, c.isDigit = true)
    (nonempty : digits ≠ []) (zeros : Nat) :
    ∃ d, ofUnsigned? negative
        (digits ++ List.replicate zeros '0' ++ (if pointed then ".0".toList else [])) = some d ∧
      d.value = Nat.ofDigitChars 10 digits 0 * 10 ^ (zeros : Int) := by
  let whole := digits ++ List.replicate zeros '0'
  have all_digits : ∀ c ∈ whole, c.isDigit = true := by
    refine List.forall_mem_append.mpr ⟨all, fun c member => ?_⟩
    rw [List.eq_of_mem_replicate member]
    rfl
  have some_digit : whole ≠ [] := List.append_ne_nil_of_left_ne_nil nonempty _
  have number : Nat.ofDigitChars 10 whole 0 = Nat.ofDigitChars 10 digits 0 * 10 ^ zeros := by
    rw [Nat.ofDigitChars_append, Nat.ofDigitChars_replicate_zero, Nat.mul_comm]
  cases pointed with
  | true =>
      have read : ofUnsigned? negative (whole ++ '.' :: (['0'] ++ [])) = _ :=
        ofUnsigned?_point negative all_digits some_digit
          (List.forall_mem_singleton.mpr rfl) rfl
      have more : Nat.ofDigitChars 10 (whole ++ ['0']) 0 =
          Nat.ofDigitChars 10 digits 0 * 10 ^ zeros * 10 := by
        rw [Nat.ofDigitChars_append, number, Nat.mul_comm _ 10]
        rfl
      refine ⟨_, read, ?_⟩
      rw [value, more]
      push_cast
      rw [List.length_singleton, zpow_natCast]
      simp
  | false =>
      have read : ofUnsigned? negative (whole ++ []) = _ :=
        ofUnsigned?_whole negative all_digits some_digit rfl fun _ => (List.cons_ne_nil _ _).symm
      refine ⟨_, read, ?_⟩
      rw [value, number]
      push_cast
      rw [zpow_natCast]
      exact mul_one _

theorem value_within (all : ∀ c ∈ digits, c.isDigit = true) {point : Nat}
    (some_whole : digits.take point ≠ []) (inside : point ≤ digits.length) :
    ∃ d, ofUnsigned? negative (digits.take point ++ '.' :: digits.drop point) = some d ∧
      d.value = Nat.ofDigitChars 10 digits 0 * 10 ^ ((point : Int) - digits.length) := by
  have read : ofUnsigned? negative (digits.take point ++ '.' :: (digits.drop point ++ [])) = _ :=
    ofUnsigned?_point negative (fun c member => all c (List.mem_of_mem_take member)) some_whole
      (fun c member => all c (List.mem_of_mem_drop member)) rfl
  rw [List.append_nil, List.take_append_drop, List.length_drop] at read
  refine ⟨_, read, ?_⟩
  change (_ : ℚ) * 10 ^ ((0 : Int) - (digits.length - point : Nat)) = _
  congr 2
  omega

theorem value_before (all : ∀ c ∈ digits, c.isDigit = true) (zeros : Nat) :
    ∃ d, ofUnsigned? negative ("0.".toList ++ List.replicate zeros '0' ++ digits) = some d ∧
      d.value = Nat.ofDigitChars 10 digits 0 * 10 ^ (-(zeros + digits.length : Int)) := by
  have all_digits : ∀ c ∈ List.replicate zeros '0' ++ digits, c.isDigit = true := by
    refine List.forall_mem_append.mpr ⟨fun c member => ?_, all⟩
    rw [List.eq_of_mem_replicate member]
    rfl
  have read :
      ofUnsigned? negative (['0'] ++ '.' :: (List.replicate zeros '0' ++ digits ++ [])) = _ :=
    ofUnsigned?_point negative (List.forall_mem_singleton.mpr rfl) (List.cons_ne_nil _ _)
      all_digits rfl
  have number : Nat.ofDigitChars 10 (['0'] ++ (List.replicate zeros '0' ++ digits)) 0 =
      Nat.ofDigitChars 10 digits 0 := by
    rw [List.singleton_append, Nat.ofDigitChars_cons, Nat.ofDigitChars_append,
      Nat.ofDigitChars_replicate_zero]
    simp
  rw [List.append_nil, number, List.length_append, List.length_replicate] at read
  refine ⟨_, read, ?_⟩
  change (_ : ℚ) * 10 ^ ((0 : Int) - (zeros + digits.length : Nat)) = _
  congr 2
  omega

theorem value_power (all : ∀ c ∈ digits, c.isDigit = true) (nonempty : digits ≠ [])
    (power : Int) :
    ∃ d, ofUnsigned? negative
        ((match digits with
          | [] => []
          | [d] => [d]
          | d :: rest => d :: '.' :: rest) ++
            'e' :: (if power < 0 then '-' else '+') :: ofNat power.natAbs) = some d ∧
      d.value = Nat.ofDigitChars 10 digits 0 * 10 ^ (power + 1 - digits.length) := by
  let tail := 'e' :: (if power < 0 then '-' else '+') :: ofNat power.natAbs
  match digits, all, nonempty with
  | [], _, nonempty => exact absurd rfl nonempty
  | [c], all, _ =>
      have read : ofUnsigned? negative ([c] ++ tail) = _ :=
        ofUnsigned?_whole negative all (List.cons_ne_nil _ _) rfl (by simp [tail])
      rw [exponent?_power] at read
      refine ⟨_, read, ?_⟩
      change (_ : ℚ) * 10 ^ power = _
      congr 2
      exact (Int.add_sub_cancel power 1).symm
  | c :: c' :: rest, all, _ =>
      have read : ofUnsigned? negative ([c] ++ '.' :: ((c' :: rest) ++ tail)) = _ :=
        ofUnsigned?_point negative (by simpa using all c List.mem_cons_self)
          (List.cons_ne_nil _ _) (fun d member => all d (List.mem_cons_of_mem _ member)) rfl
      rw [exponent?_power] at read
      refine ⟨_, read, ?_⟩
      change (_ : ℚ) * 10 ^ (power - (c' :: rest).length) = _
      congr 2
      rw [List.length_cons (a := c)]
      omega

end Magnitude

/-- However the digits are set, they are read with their value. -/
theorem value_magnitude (layout : DecimalLayout) (negative : Bool) (n : Nat) (exponent : Int) :
    ∃ d, ofUnsigned? negative (layout.magnitude (ofNat n) exponent) = some d ∧
      d.value = n * 10 ^ exponent := by
  have all : ∀ c ∈ ofNat n, c.isDigit = true := isDigit_of_mem_ofNat
  have nonempty : ofNat n ≠ [] := ofNat_ne_nil n
  have number : (n : ℚ) = (Nat.ofDigitChars 10 (ofNat n) 0 : Nat) :=
    congrArg Nat.cast Nat.ofDigitChars_ten_toDigits.symm
  rw [number]
  generalize ofNat n = digits at all nonempty
  have length : 0 < digits.length := List.length_pos_iff.mpr nonempty
  unfold DecimalLayout.magnitude
  dsimp only
  split
  · split
    · next whole =>
      obtain ⟨zeros, rfl⟩ := Int.eq_ofNat_of_zero_le whole
      exact value_zeros negative layout.pointed all nonempty zeros
    · next part =>
      split
      · next within =>
        have point : ((digits.length + exponent).toNat : Int) = digits.length + exponent := by omega
        have some_whole : digits.take (digits.length + exponent).toNat ≠ [] := by
          refine List.length_pos_iff.mp ?_
          rw [List.length_take]
          omega
        obtain ⟨d, read, value⟩ := value_within negative all some_whole (by omega)
        refine ⟨d, read, value.trans ?_⟩
        rw [point, add_sub_cancel_left]
      · next before =>
        obtain ⟨d, read, value⟩ :=
          value_before negative all (-((digits.length : Int) + exponent)).toNat
        refine ⟨d, read, value.trans ?_⟩
        congr 2
        omega
  · obtain ⟨d, read, value⟩ :=
      value_power negative all nonempty ((digits.length : Int) + exponent - 1)
    refine ⟨d, read, value.trans ?_⟩
    congr 2
    omega

end Decimal

namespace DecimalLayout

open Digits Double

variable (layout : DecimalLayout)

/-- The decimal of a magnitude. Zero has no shorter ones around it. -/
def decimalOf (units : Nat) : Nat × Int := if units = 0 then (0, 0) else shortest layout.tie units

theorem ofUnits_eq (units : Nat) :
    layout.ofUnits units =
      layout.magnitude (ofNat (layout.decimalOf units).1) (layout.decimalOf units).2 := by
  unfold ofUnits decimalOf
  split <;> rfl

theorem decimalOf_injective {u v : Nat} (r : Representable u) (r' : Representable v)
    (same : ((layout.decimalOf u).1 : ℚ) * 10 ^ (layout.decimalOf u).2 =
      (layout.decimalOf v).1 * 10 ^ (layout.decimalOf v).2) : u = v := by
  have positive {w : Nat} (r : Representable w) (nonzero : w ≠ 0) :
      (0 : ℚ) < (shortest layout.tie w).1 * 10 ^ (shortest layout.tie w).2 :=
    mul_pos (Nat.cast_pos.mpr (shortest_pos layout.tie r nonzero)) (zpow_pos (by norm_num) _)
  unfold decimalOf at same
  split at same
  · next zero =>
    split at same
    · next zero' => rw [zero, zero']
    · next nonzero' =>
      rw [Nat.cast_zero, zero_mul] at same
      exact absurd same (ne_of_lt (positive r' nonzero'))
  · next nonzero =>
    split at same
    · rw [Nat.cast_zero, zero_mul] at same
      exact absurd same.symm (ne_of_lt (positive r nonzero))
    · next nonzero' => exact shortest_injective layout.tie r r' nonzero nonzero' same

theorem value_ofUnits (negative : Bool) (units : Nat) :
    ∃ d, Decimal.ofUnsigned? negative (layout.ofUnits units) = some d ∧
      d.value = (layout.decimalOf units).1 * 10 ^ (layout.decimalOf units).2 := by
  rw [ofUnits_eq]
  exact Decimal.value_magnitude layout negative _ _

theorem ofUnits_injective {u v : Nat} (r : Representable u) (r' : Representable v)
    (same : layout.ofUnits u = layout.ofUnits v) : u = v := by
  obtain ⟨d, read, value⟩ := layout.value_ofUnits false u
  obtain ⟨d', read', value'⟩ := layout.value_ofUnits false v
  rw [same, read'] at read
  obtain rfl := Option.some.inj read
  exact layout.decimalOf_injective r r' (value.symm.trans value')

theorem ofUnits_ne_minus (units : Nat) (rest : List Char) : layout.ofUnits units ≠ '-' :: rest := by
  intro signed
  obtain ⟨d, read, -⟩ := layout.value_ofUnits false units
  rw [signed] at read
  contradiction

/-- The text of a finite double determines it, and its sign too if it is zero. -/
theorem text_injective {a b : Double} (finite : a.isFinite = true) (finite' : b.isFinite = true)
    (same : layout.text a = layout.text b) : a = b := by
  cases a with
  | nan | infinite => contradiction
  | finite negative u r =>
      cases b with
      | nan | infinite => contradiction
      | finite negative' v r' =>
          unfold text at same
          cases negative with
          | true =>
              cases negative' with
              | true =>
                  obtain rfl := layout.ofUnits_injective r r' (List.cons.inj same).2
                  rfl
              | false => exact absurd same.symm (layout.ofUnits_ne_minus v _)
          | false =>
              cases negative' with
              | true => exact absurd same (layout.ofUnits_ne_minus u _)
              | false =>
                  obtain rfl := layout.ofUnits_injective r r' same
                  rfl

end DecimalLayout

/-- The characters in the texts of numbers. -/
def isNumeric (c : Char) : Bool := c.isDigit || c = '.' || c = 'e' || c = '+' || c = '-'

theorem isNumeric_of_isDigit {c : Char} (digit : c.isDigit = true) : isNumeric c = true := by
  simp [isNumeric, digit]

namespace DecimalLayout

open Digits

variable (layout : DecimalLayout) {digits : List Char} (exponent : Int)

theorem isNumeric_magnitude (all : ∀ c ∈ digits, c.isDigit = true) :
    ∀ c ∈ layout.magnitude digits exponent, isNumeric c = true := by
  have numeric {part : List Char} (sub : part ⊆ digits) : ∀ c ∈ part, isNumeric c = true :=
    fun c member => isNumeric_of_isDigit (all c (sub member))
  have zeros (count : Nat) : ∀ c ∈ List.replicate count '0', isNumeric c = true :=
    fun c member => List.eq_of_mem_replicate member ▸ rfl
  have power (n : Nat) : ∀ c ∈ ofNat n, isNumeric c = true :=
    fun c member => isNumeric_of_isDigit (isDigit_of_mem_ofNat c member)
  unfold magnitude
  dsimp only
  split
  · split
    · refine List.forall_mem_append.mpr ⟨List.forall_mem_append.mpr
        ⟨numeric (List.Subset.refl _), zeros _⟩, ?_⟩
      split
      · exact List.forall_mem_cons.mpr ⟨rfl, List.forall_mem_singleton.mpr rfl⟩
      · exact List.forall_mem_nil _
    · split
      · exact List.forall_mem_append.mpr ⟨numeric (List.take_subset _ _),
          List.forall_mem_cons.mpr ⟨rfl, numeric (List.drop_subset _ _)⟩⟩
      · refine List.forall_mem_append.mpr ⟨List.forall_mem_append.mpr ⟨?_, zeros _⟩,
          numeric (List.Subset.refl _)⟩
        exact List.forall_mem_cons.mpr ⟨rfl, List.forall_mem_singleton.mpr rfl⟩
  · refine List.forall_mem_append.mpr ⟨?_, List.forall_mem_cons.mpr ⟨rfl,
      List.forall_mem_cons.mpr ⟨?_, power _⟩⟩⟩
    · split
      · exact List.forall_mem_nil _
      · exact numeric (List.Subset.refl _)
      · exact List.forall_mem_cons.mpr ⟨numeric (List.Subset.refl _) _ List.mem_cons_self,
          List.forall_mem_cons.mpr ⟨rfl, numeric (List.subset_cons_self _ _)⟩⟩
    · split <;> rfl

theorem exists_mem_magnitude (pointed : layout.pointed = true) :
    ∃ c ∈ layout.magnitude digits exponent, c.isDigit = false := by
  unfold magnitude
  dsimp only
  split
  · split
    · exact ⟨'.', by simp, rfl⟩
    · split
      · exact ⟨'.', by simp, rfl⟩
      · exact ⟨'.', by simp, rfl⟩
  · exact ⟨'e', by simp, rfl⟩

theorem isNumeric_text {d : Double} (finite : d.isFinite = true) :
    ∀ c ∈ layout.text d, isNumeric c = true := by
  cases d with
  | nan | infinite => contradiction
  | finite negative units r =>
      refine List.forall_mem_append.mpr ⟨?_, ?_⟩
      · cases negative with
        | true => exact List.forall_mem_singleton.mpr rfl
        | false => exact List.forall_mem_nil _
      · rw [ofUnits_eq]
        exact layout.isNumeric_magnitude _ isDigit_of_mem_ofNat

theorem exists_mem_text (pointed : layout.pointed = true) {d : Double}
    (finite : d.isFinite = true) : ∃ c ∈ layout.text d, c.isDigit = false := by
  cases d with
  | nan | infinite => contradiction
  | finite negative units r =>
      have set : ∃ c ∈ layout.ofUnits units, c.isDigit = false := by
        rw [ofUnits_eq]
        exact layout.exists_mem_magnitude _ pointed
      obtain ⟨c, member, other⟩ := set
      exact ⟨c, List.mem_append_right _ member, other⟩

end DecimalLayout

end TransitFeed
