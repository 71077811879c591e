import Mathlib.Algebra.GroupWithZero.Nat
import TransitFeed.Load.Basic
import TransitFeed.Proofs.Csv.Terminated

/-! # Reading through buffers

The content of an entry is delivered in pieces. A piece that is read is counted; it waits in one
buffer until the octets of another one are used up, and from there the records are read. A byte
order mark is skipped in the first piece, and once more in what is read of it first. Nothing is read
ahead of need: the next piece is asked for when all octets of the earlier ones are used up.
-/

namespace TransitFeed

namespace Progress

theorem blocks_of_le {octets : Nat} (some_octets : octets ≠ 0) (few : octets ≤ blockSize) :
    blocks octets = [octets] := by
  rw [blocks, if_neg some_octets, if_pos few]

theorem blocks_of_lt {octets : Nat} (many : blockSize < octets) :
    blocks octets = blockSize :: blocks (octets - blockSize) := by
  have some_octets : octets ≠ 0 := Nat.ne_of_gt (Nat.lt_of_le_of_lt (Nat.zero_le _) many)
  rw [blocks, if_neg some_octets, if_neg (Nat.not_le.mpr many)]

@[simp] theorem blocks_zero : blocks 0 = [] := by
  rw [blocks, if_pos rfl]

theorem take_blocks (octets count : Nat) :
    (blocks octets).take count = blocks (min octets (count * blockSize)) := by
  induction count generalizing octets with
  | zero => simp
  | succ count ih =>
      rcases Nat.eq_zero_or_pos octets with rfl | positive
      · simp
      rcases Nat.lt_or_ge blockSize octets with many | few
      · have split : min octets ((count + 1) * blockSize) - blockSize =
            min (octets - blockSize) (count * blockSize) := by
          rw [Nat.succ_mul]
          omega
        rw [blocks_of_lt many, List.take_succ_cons, ih, ← split]
        rcases Nat.eq_zero_or_pos count with rfl | more
        · have one : min octets ((0 + 1) * blockSize) = blockSize := by
            rw [Nat.zero_add, Nat.one_mul]
            exact Nat.min_eq_right (Nat.le_of_lt many)
          rw [one, Nat.sub_self, blocks_zero, blocks_of_le (by decide) (Nat.le_refl _)]
        · have whole : blockSize < min octets ((count + 1) * blockSize) := by
            have size : 0 < blockSize := by decide
            have := Nat.mul_le_mul_right blockSize more
            rw [Nat.succ_mul]
            omega
          rw [blocks_of_lt whole]
      · have all : min octets ((count + 1) * blockSize) = octets := by
          rw [Nat.succ_mul]
          omega
        rw [all, blocks_of_le (Nat.ne_of_gt positive) few, List.take_succ_cons, List.take_nil]

theorem sum_blocks (octets : Nat) : (blocks octets).sum = octets := by
  induction octets using blocks.induct with
  | case1 => simp
  | case2 octets some_octets few => rw [blocks_of_le some_octets few, List.sum_singleton]
  | case3 octets some_octets many ih =>
      rw [blocks_of_lt (Nat.not_le.mp many), List.sum_cons, ih]
      omega

theorem mem_blocks {octets block : Nat} (member : block ∈ blocks octets) :
    0 < block ∧ block ≤ blockSize := by
  induction octets using blocks.induct with
  | case1 => simp at member
  | case2 octets some_octets few =>
      rw [blocks_of_le some_octets few, List.mem_singleton] at member
      exact member ▸ ⟨Nat.pos_of_ne_zero some_octets, few⟩
  | case3 octets some_octets many ih =>
      rw [blocks_of_lt (Nat.not_le.mp many)] at member
      rcases List.mem_cons.mp member with rfl | later
      · exact ⟨by decide, Nat.le_refl _⟩
      · exact ih later

/-- A content in blocks. -/
def pieces (content : Octets) : List Octets :=
  if content = [] then [] else content.take blockSize :: pieces (content.drop blockSize)
termination_by content.length
decreasing_by
  have := List.length_pos_iff.mpr ‹content ≠ []›
  rw [List.length_drop]
  simp only [blockSize]
  omega

theorem length_pieces (content : Octets) :
    (pieces content).map List.length = blocks content.length := by
  induction content using pieces.induct with
  | case1 => rw [pieces, if_pos rfl, List.length_nil, blocks_zero, List.map_nil]
  | case2 content some_octets ih =>
      rw [pieces, if_neg some_octets, List.map_cons, ih, List.length_take, List.length_drop]
      have positive := List.length_pos_iff.mpr some_octets
      rcases Nat.lt_or_ge blockSize content.length with many | few
      · rw [blocks_of_lt many, Nat.min_eq_left (Nat.le_of_lt many)]
      · rw [blocks_of_le (Nat.ne_of_gt positive) few, Nat.min_eq_right few,
          Nat.sub_eq_zero_of_le few, blocks_zero]

theorem mem_pieces {content piece : Octets} (member : piece ∈ pieces content) :
    0 < piece.length ∧ piece.length ≤ blockSize := by
  have length : piece.length ∈ blocks content.length := by
    rw [← length_pieces]
    exact List.mem_map_of_mem member
  exact mem_blocks length

theorem flatten_pieces (content : Octets) : (pieces content).flatten = content := by
  induction content using pieces.induct with
  | case1 => rw [pieces, if_pos rfl, List.flatten_nil]
  | case2 content some_octets ih =>
      rw [pieces, if_neg some_octets, List.flatten_cons, ih, List.take_append_drop]

end Progress

namespace Utf8

theorem length_withoutMark (octets : Octets) : (withoutMark octets).length ≤ octets.length := by
  unfold withoutMark
  split
  · exact Nat.le_add_right _ 3
  · exact Nat.le_refl _

theorem withoutMark_nil : withoutMark [] = [] := rfl

theorem withoutMark_of_length {octets : Octets} (long : 6 ≤ octets.length) :
    3 ≤ (withoutMark octets).length := by
  unfold withoutMark
  split
  · simp only [List.length_cons] at long
    omega
  · omega

theorem withoutMark_append {octets : Octets} (long : 3 ≤ octets.length) (more : Octets) :
    withoutMark (octets ++ more) = withoutMark octets ++ more := by
  match octets, long with
  | a :: b :: c :: rest, _ =>
      unfold withoutMark
      simp only [List.cons_append]
      split
      · next heads =>
        obtain ⟨rfl, rfl, rfl, rfl⟩ : a = 0xEF ∧ b = 0xBB ∧ c = 0xBF ∧ rest ++ more = _ := by
          simpa using heads
        rfl
      · next free =>
        split
        · next heads =>
          obtain ⟨rfl, rfl, rfl, rfl⟩ : a = 0xEF ∧ b = 0xBB ∧ c = 0xBF ∧ rest = _ := by
            simpa using heads
          exact absurd rfl (free _)
        · rfl

end Utf8

namespace Csv

namespace Reader

/-- The reader with other records before its own. -/
def behind (r : Reader) (earlier : List Record) : Reader :=
  { r with records := r.records ++ earlier }

variable (r : Reader) (earlier : List Record)

theorem step_behind (octet : UInt8) :
    (r.behind earlier).step octet = (r.step octet).behind earlier := by
  unfold step behind
  dsimp only
  split <;> rfl

theorem foldl_behind (octets : Octets) :
    octets.foldl step (r.behind earlier) = (octets.foldl step r).behind earlier := by
  induction octets generalizing r with
  | nil => rfl
  | cons octet rest ih => rw [List.foldl_cons, step_behind, ih, List.foldl_cons]

theorem finish_behind : (r.behind earlier).finish = r.finish.behind earlier := by
  unfold finish
  change (if r.place = .recordStart then _ else _) = _
  split <;> rfl

theorem step_cases (octet : UInt8) :
    (r.step octet).records = r.records ∨ r.step octet = r.endRecord := by
  unfold step
  split <;> first | exact Or.inl rfl | exact Or.inr rfl

/-- What the first record needs is read, and nothing behind it. -/
theorem foldl_lengthToRecord {r : Reader} (none_yet : r.records = []) {octets : Octets} {n : Nat}
    (found : r.lengthToRecord octets = some n) :
    ∃ record, (octets.take n).foldl step r = initial.behind [record] ∧ n ≤ octets.length := by
  induction octets generalizing r n with
  | nil => contradiction
  | cons octet rest ih =>
      rw [lengthToRecord] at found
      rcases r.step_cases octet with same | ended
      · have still : (r.step octet).records = [] := same.trans none_yet
        simp only [still, List.isEmpty_nil, if_true] at found
        obtain ⟨m, later, rfl⟩ := Option.map_eq_some_iff.mp found
        obtain ⟨record, read, inside⟩ := ih still later
        exact ⟨record, read, Nat.succ_le_succ inside⟩
      · have complete : (r.step octet).records.isEmpty = false := by rw [ended]; rfl
        simp only [complete, Bool.false_eq_true, if_false, Option.some.injEq] at found
        subst found
        refine ⟨(r.cell.reverse :: r.cells).reverse, ?_, Nat.succ_le_succ (Nat.zero_le _)⟩
        rw [List.take_succ_cons, List.take_zero, List.foldl_cons, List.foldl_nil, ended, endRecord,
          none_yet]
        rfl

theorem foldl_of_lengthToRecord_none {r : Reader} (none_yet : r.records = []) {octets : Octets}
    (missing : r.lengthToRecord octets = none) : (octets.foldl step r).records = [] := by
  induction octets generalizing r with
  | nil => exact none_yet
  | cons octet rest ih =>
      rw [lengthToRecord] at missing
      cases complete : (r.step octet).records with
      | nil =>
          simp only [complete, List.isEmpty_nil, if_true, Option.map_eq_none_iff] at missing
          exact ih complete missing
      | cons record records => simp [complete] at missing

/-- The records when the content ends. The end of a corrupt content is never reached. -/
def ended (state : EntryState) (r : Reader) : List Record :=
  (if state = .intact then r.finish else r).records.reverse

theorem ended_behind (state : EntryState) (r : Reader) (record : Record) :
    (r.behind [record]).ended state = record :: r.ended state := by
  unfold ended
  split
  · rw [finish_behind]
    exact List.reverse_concat
  · exact List.reverse_concat

theorem length_ended_of_records_nil (state : EntryState) {r : Reader} (none_yet : r.records = []) :
    (r.ended state).length ≤ 1 := by
  unfold ended finish endRecord
  rw [none_yet]
  split
  · rw [List.length_reverse]
    split
    · rw [none_yet]
      exact Nat.zero_le 1
    · exact Nat.le_refl 1
  · rw [none_yet]
    exact Nat.zero_le 1

theorem ended_of_records_nil (state : EntryState) {r : Reader} (none_yet : r.records = []) :
    r.ended state = if state = .intact then r.finish.records else [] := by
  unfold ended
  split
  · unfold finish
    split
    · rw [none_yet]
      rfl
    · rw [endRecord, none_yet]
      rfl
  · rw [none_yet]
    rfl

end Reader

end Csv

theorem Entry.records_eq_ended (entry : Entry) :
    entry.records = (Csv.scan entry.body).ended entry.state := by
  unfold records Csv.Reader.ended
  split <;> rfl

/-- The octets of an entry on their way to the records. -/
structure Intake where
  /-- The pieces that have not been delivered. -/
  unread : List Octets
  /-- The buffer behind the other one. -/
  far : Octets := []
  /-- The buffer from which records are read. -/
  near : Octets := []
  /-- How many octets each read has delivered. -/
  counted : List Nat := []
  deriving Repr, DecidableEq

namespace Intake

/-- The octets that have not been used. -/
def ahead (i : Intake) : Octets := i.near ++ (i.far ++ i.unread.flatten)

/-- The next piece, which is counted. At the end nothing is delivered. -/
def read (i : Intake) : Octets × Intake :=
  match i.unread with
  | [] => ([], i)
  | piece :: rest => (piece, { i with unread := rest, counted := i.counted ++ [piece.length] })

/-- The first read. A byte order mark is skipped in it. -/
def start (pieces : List Octets) : Intake :=
  let first := ({ unread := pieces } : Intake).read
  { first.2 with far := Utf8.withoutMark first.1 }

/-- Fills the buffer of the records if its octets are used up. If the other buffer is used up too,
    the next piece is read without it. -/
def fill (i : Intake) : Intake :=
  if i.near = [] then
    if i.far = [] then { i.read.2 with near := i.read.1 } else { i with near := i.far, far := [] }
  else i

/-- Skips a byte order mark in what the records are read from first. -/
def skipMark (i : Intake) : Intake := { i.fill with near := Utf8.withoutMark i.fill.near }

def next (i : Intake) : Option (UInt8 × Intake) :=
  match i.fill.near with
  | [] => none
  | octet :: rest => some (octet, { i.fill with near := rest })

variable (i : Intake)

theorem ahead_fill : i.fill.ahead = i.ahead := by
  unfold fill
  split
  · next near =>
    split
    · next far =>
      unfold read
      split
      · next unread => simp [ahead, near, far, unread]
      · next unread => simp [ahead, near, far, unread]
    · simp [ahead, near]
  · rfl

theorem ahead_next {i j : Intake} {octet : UInt8} (more : i.next = some (octet, j)) :
    i.ahead = octet :: j.ahead := by
  unfold next at more
  split at more
  · contradiction
  · next near =>
    obtain ⟨rfl, rfl⟩ := Prod.mk.inj (Option.some.inj more)
    rw [← ahead_fill, ahead, near]
    rfl

theorem length_ahead_next {i j : Intake} {octet : UInt8} (more : i.next = some (octet, j)) :
    j.ahead.length < i.ahead.length := by
  rw [ahead_next more]
  exact Nat.lt_succ_self _

/-- What is read of a content so far: each piece once and in order, and none ahead of need. -/
structure Follows (pieces : List Octets) (i : Intake) : Prop where
  lengths : i.counted ++ i.unread.map List.length = pieces.map List.length
  nonempty : ∀ piece ∈ i.unread, piece ≠ []
  /-- What waits in the buffers is of the last piece. -/
  waiting : i.counted.dropLast.sum + (i.near.length + i.far.length) ≤ i.counted.sum

variable {i} {pieces : List Octets}

theorem Follows.read (follows : i.Follows pieces) (used : i.near = []) (used_too : i.far = []) :
    ({ i.read.2 with near := i.read.1 } : Intake).Follows pieces := by
  unfold Intake.read
  split
  · next unread =>
    refine ⟨follows.lengths, follows.nonempty, ?_⟩
    simpa [used] using follows.waiting
  · next piece rest unread =>
    refine ⟨?_, fun other member => ?_, ?_⟩
    · have lengths := follows.lengths
      rw [unread] at lengths
      simpa using lengths
    · exact follows.nonempty other (unread ▸ List.mem_cons_of_mem _ member)
    · simp [used_too]

theorem Follows.fill (follows : i.Follows pieces) : i.fill.Follows pieces := by
  unfold Intake.fill
  split
  · next near =>
    split
    · next far => exact follows.read near far
    · refine ⟨follows.lengths, follows.nonempty, ?_⟩
      simpa [near] using follows.waiting
  · exact follows

theorem Follows.fill_near (follows : i.Follows pieces) (nothing : i.fill.near = []) :
    i.ahead = [] ∧ i.unread = [] := by
  unfold Intake.fill at nothing
  split at nothing
  · next near =>
    split at nothing
    · next far =>
      unfold Intake.read at nothing
      split at nothing
      · next unread => exact ⟨by simp [ahead, near, far, unread], unread⟩
      · next piece rest unread =>
        exact absurd nothing (follows.nonempty piece (unread ▸ List.mem_cons_self))
    · contradiction
  · contradiction

theorem Follows.of_next_none (follows : i.Follows pieces) (ended : i.next = none) :
    i.ahead = [] ∧ i.counted = pieces.map List.length := by
  unfold Intake.next at ended
  split at ended
  · next near =>
    obtain ⟨nothing, all⟩ := follows.fill_near near
    refine ⟨nothing, ?_⟩
    have lengths := follows.lengths
    rwa [all, List.map_nil, List.append_nil] at lengths
  · contradiction

theorem Follows.skipMark (follows : i.Follows pieces) : i.skipMark.Follows pieces := by
  refine ⟨follows.fill.lengths, follows.fill.nonempty, ?_⟩
  have waiting := follows.fill.waiting
  have shorter := Utf8.length_withoutMark i.fill.near
  change i.fill.counted.dropLast.sum +
    ((Utf8.withoutMark i.fill.near).length + i.fill.far.length) ≤ i.fill.counted.sum
  omega

theorem Follows.next (follows : i.Follows pieces) {j : Intake} {octet : UInt8}
    (more : i.next = some (octet, j)) :
    j.Follows pieces ∧
      j.counted.dropLast.sum + (j.near.length + j.far.length) < j.counted.sum := by
  unfold Intake.next at more
  split at more
  · contradiction
  · next near =>
    obtain ⟨rfl, rfl⟩ := Prod.mk.inj (Option.some.inj more)
    have waiting := follows.fill.waiting
    rw [near, List.length_cons] at waiting
    dsimp only
    exact ⟨⟨follows.fill.lengths, follows.fill.nonempty, by dsimp only; omega⟩, by omega⟩

/-- Reads until a record is complete, or until the content has ended. -/
def toRecord (r : Csv.Reader) (i : Intake) : Csv.Reader × Intake :=
  match _more : i.next with
  | none => (r, i)
  | some (octet, j) =>
    if (r.step octet).records = [] then j.toRecord (r.step octet) else (r.step octet, j)
termination_by i.ahead.length
decreasing_by exact length_ahead_next _more

theorem length_ahead_toRecord {r : Csv.Reader} {i : Intake} (none_yet : r.records = [])
    (complete : (i.toRecord r).1.records ≠ []) :
    (i.toRecord r).2.ahead.length < i.ahead.length := by
  induction r, i using toRecord.induct with
  | case1 r i ended =>
      rw [toRecord, ended] at complete
      exact absurd none_yet complete
  | case2 r i octet j more still ih =>
      rw [toRecord, more] at complete ⊢
      simp only [still, if_true] at complete ⊢
      exact Nat.lt_trans (ih still complete) (length_ahead_next more)
  | case3 r i octet j more one =>
      rw [toRecord, more]
      simp only [one, if_false]
      exact length_ahead_next more

/-- Reads one record after the other until the content has ended. -/
def rows (state : EntryState) (i : Intake) : List Csv.Record × Intake :=
  if _nothing : (i.toRecord .initial).1.records = [] then
    (if state = .intact then (i.toRecord .initial).1.finish.records else [],
      (i.toRecord .initial).2)
  else
    ((i.toRecord .initial).1.records ++ ((i.toRecord .initial).2.rows state).1,
      ((i.toRecord .initial).2.rows state).2)
termination_by i.ahead.length
decreasing_by all_goals exact length_ahead_toRecord rfl _nothing

/-- Reads a header and the records behind it. After a header without names nothing more is read. -/
def scan (state : EntryState) (pieces : List Octets) : List Csv.Record × Intake :=
  let first := (start pieces).skipMark.toRecord .initial
  match first.1.records with
  | [] => (if state = .intact then first.1.finish.records else [], first.2)
  | header :: _ =>
    if Entry.isBlankHeader header then ([header], first.2)
    else (header :: (first.2.rows state).1, (first.2.rows state).2)

variable {i : Intake} {pieces : List Octets}

/-- Whether the last piece was needed: some octet of it has been used. -/
def Needed (i : Intake) : Prop :=
  i.counted.dropLast.sum + (i.near.length + i.far.length) < i.counted.sum

/-- What the first record needs is used, and the pieces that hold it are read. Without a record all
    of them are. -/
theorem Follows.toRecord {r : Csv.Reader} (none_yet : r.records = []) (follows : i.Follows pieces) :
    (i.toRecord r).2.Follows pieces ∧
      match r.lengthToRecord i.ahead with
      | some n =>
        (i.toRecord r).1 = (i.ahead.take n).foldl Csv.Reader.step r ∧
          (i.toRecord r).2.ahead = i.ahead.drop n ∧ (i.toRecord r).2.Needed
      | none =>
        (i.toRecord r).1 = i.ahead.foldl Csv.Reader.step r ∧
          (i.toRecord r).2.counted = pieces.map List.length := by
  induction r, i using toRecord.induct with
  | case1 r i ended =>
      obtain ⟨nothing, all⟩ := follows.of_next_none ended
      rw [Intake.toRecord, ended, nothing]
      exact ⟨follows, rfl, all⟩
  | case2 r i octet j more still ih =>
      obtain ⟨later, found⟩ := ih still (follows.next more).1
      rw [Intake.toRecord, more, ahead_next more, Csv.Reader.lengthToRecord]
      simp only [still, if_true, List.isEmpty_nil]
      refine ⟨later, ?_⟩
      cases length : (r.step octet).lengthToRecord j.ahead with
      | none =>
          rw [length] at found
          exact found
      | some n =>
          rw [length] at found
          exact found
  | case3 r i octet j more one =>
      obtain ⟨later, needed⟩ := follows.next more
      have complete : (r.step octet).records.isEmpty = false := by
        rw [Bool.eq_false_iff, ne_eq, List.isEmpty_iff]
        exact one
      rw [Intake.toRecord, more, ahead_next more, Csv.Reader.lengthToRecord]
      simp only [one, if_false, complete, Bool.false_eq_true]
      exact ⟨later, rfl, rfl, needed⟩

theorem Follows.toRecord_initial (follows : i.Follows pieces) :
    (i.toRecord .initial).2.Follows pieces ∧
      ((∃ record n, Csv.Reader.initial.lengthToRecord i.ahead = some n ∧ n ≤ i.ahead.length ∧
          (i.toRecord .initial).1 = Csv.Reader.initial.behind [record] ∧
          (i.toRecord .initial).2.ahead = i.ahead.drop n ∧ (i.toRecord .initial).2.Needed ∧
          i.ahead.foldl Csv.Reader.step .initial =
            ((i.toRecord .initial).2.ahead.foldl Csv.Reader.step .initial).behind [record]) ∨
        (Csv.Reader.initial.lengthToRecord i.ahead = none ∧
          (i.toRecord .initial).1 = i.ahead.foldl Csv.Reader.step .initial ∧
          (i.toRecord .initial).1.records = [] ∧
          (i.toRecord .initial).2.counted = pieces.map List.length)) := by
  obtain ⟨later, found⟩ := follows.toRecord (r := Csv.Reader.initial) rfl
  refine ⟨later, ?_⟩
  cases length : Csv.Reader.initial.lengthToRecord i.ahead with
  | some n =>
      rw [length] at found
      obtain ⟨read, rest, needed⟩ := found
      obtain ⟨record, one, inside⟩ := Csv.Reader.foldl_lengthToRecord rfl length
      refine Or.inl ⟨record, n, rfl, inside, read.trans one, rest, needed, ?_⟩
      rw [rest, ← Csv.Reader.foldl_behind, ← one, ← List.foldl_append, List.take_append_drop]
  | none =>
      rw [length] at found
      refine Or.inr ⟨rfl, found.1, ?_, found.2⟩
      rw [found.1]
      exact Csv.Reader.foldl_of_lengthToRecord_none rfl length

theorem Follows.rows_follows (state : EntryState) (follows : i.Follows pieces) :
    (i.rows state).2.Follows pieces := by
  induction i using rows.induct with
  | case1 i nothing =>
      rw [Intake.rows, dif_pos nothing]
      exact follows.toRecord_initial.1
  | case2 i some_record ih =>
      rw [Intake.rows, dif_neg some_record]
      exact ih follows.toRecord_initial.1

theorem Follows.rows (state : EntryState) (follows : i.Follows pieces) :
    (i.rows state).1 = (i.ahead.foldl Csv.Reader.step .initial).ended state ∧
      (i.rows state).2.counted = pieces.map List.length := by
  induction i using rows.induct with
  | case1 i nothing =>
      rw [Intake.rows, dif_pos nothing]
      obtain ⟨later, ⟨record, n, -, -, read, -⟩ | ⟨-, read, -, all⟩⟩ := follows.toRecord_initial
      · rw [read] at nothing
        contradiction
      · rw [read] at nothing ⊢
        exact ⟨(Csv.Reader.ended_of_records_nil state nothing).symm, all⟩
  | case2 i some_record ih =>
      rw [Intake.rows, dif_neg some_record]
      obtain ⟨later, ⟨record, n, -, -, read, -, -, whole⟩ | ⟨-, -, nothing, -⟩⟩ :=
        follows.toRecord_initial
      · obtain ⟨records, all⟩ := ih later
        refine ⟨?_, all⟩
        rw [whole, Csv.Reader.ended_behind, records, read]
        rfl
      · exact absurd nothing some_record

theorem Follows.sum_counted_le (follows : i.Follows pieces) :
    i.counted.sum ≤ pieces.flatten.length := by
  rw [List.length_flatten, ← follows.lengths, List.sum_append]
  exact Nat.le_add_right _ _

theorem Follows.length_ahead (follows : i.Follows pieces) :
    i.ahead.length + i.counted.sum = pieces.flatten.length + (i.near.length + i.far.length) := by
  rw [List.length_flatten (L := pieces), ← follows.lengths, List.sum_append, ahead,
    List.length_append, List.length_append, List.length_flatten]
  omega

end Intake

/-- The pieces in which a content is delivered. A read delivers something before the end, and at
    most a block. The first one delivers the octets that are looked at for byte order marks, unless
    it delivers all. -/
structure Delivery (content : Octets) where
  pieces : List Octets
  joined : pieces.flatten = content
  nonempty : ∀ piece ∈ pieces, piece ≠ []
  bounded : ∀ piece ∈ pieces, piece.length ≤ Progress.blockSize
  first : ∀ piece rest, pieces = piece :: rest → rest = [] ∨ 6 ≤ piece.length

namespace Delivery

variable {content : Octets} (d : Delivery content)

theorem skipMark_start :
    (Intake.start d.pieces).skipMark.Follows d.pieces ∧
      (Intake.start d.pieces).skipMark.ahead = Utf8.withoutMark (Utf8.withoutMark content) := by
  obtain ⟨pieces, rfl, nonempty, -, first⟩ := d
  cases pieces with
  | nil => exact ⟨⟨rfl, List.forall_mem_nil _, Nat.le_refl 0⟩, rfl⟩
  | cons piece rest =>
      have begun : (Intake.start (piece :: rest)).Follows (piece :: rest) := by
        refine ⟨rfl, fun other member => nonempty other (List.mem_cons_of_mem _ member), ?_⟩
        have shorter := Utf8.length_withoutMark piece
        simpa [Intake.start, Intake.read] using shorter
      refine ⟨begun.skipMark, ?_⟩
      rcases first piece rest rfl with rfl | long
      · by_cases mark_only : Utf8.withoutMark piece = []
        · simp [Intake.skipMark, Intake.fill, Intake.start, Intake.read, mark_only, Intake.ahead,
            Utf8.withoutMark_nil]
        · simp [Intake.skipMark, Intake.fill, Intake.start, Intake.read, mark_only, Intake.ahead]
      · have enough := Utf8.withoutMark_of_length long
        have some_left : Utf8.withoutMark piece ≠ [] := List.length_pos_iff.mp (by omega)
        dsimp only
        rw [List.flatten_cons, Utf8.withoutMark_append (by omega), Utf8.withoutMark_append enough]
        simp [Intake.skipMark, Intake.fill, Intake.start, Intake.read, some_left, Intake.ahead]

end Delivery

namespace Entry

/-- Whether the first record of an entry is a header without names. -/
def hasBlankHeader (entry : Entry) : Bool := entry.records.head?.any isBlankHeader

/-- The records that a load looks at. -/
def recordsRead (entry : Entry) : List Csv.Record :=
  if entry.hasBlankHeader then entry.records.take 1 else entry.records

/-- How many octets behind the marks are used if not all of them are. -/
def lengthUsed? (entry : Entry) : Option Nat :=
  if entry.hasBlankHeader then Csv.Reader.initial.lengthToRecord (Utf8.withoutMark entry.body)
  else none

/-- Through the buffers the records of an entry are read, whatever pieces its content is delivered
    in. All pieces are read, or the header has no names and ends in the last one that is read. -/
theorem scan_pieces (entry : Entry) (d : Delivery entry.content) :
    (Intake.scan entry.state d.pieces).1 = entry.recordsRead ∧
      (Intake.scan entry.state d.pieces).2.Follows d.pieces ∧
        match entry.lengthUsed? with
        | some n =>
          (Intake.scan entry.state d.pieces).2.Needed ∧
            (Intake.scan entry.state d.pieces).2.ahead = (Utf8.withoutMark entry.body).drop n ∧
              n ≤ (Utf8.withoutMark entry.body).length
        | none => (Intake.scan entry.state d.pieces).2.counted = d.pieces.map List.length := by
  obtain ⟨begun, octets⟩ := d.skipMark_start
  change (Intake.start d.pieces).skipMark.ahead = Utf8.withoutMark entry.body at octets
  have all : entry.records =
      ((Utf8.withoutMark entry.body).foldl Csv.Reader.step .initial).ended entry.state :=
    entry.records_eq_ended
  obtain ⟨later, ⟨record, n, length, inside, read, rest, needed, whole⟩ |
    ⟨length, read, nothing, counted⟩⟩ := begun.toRecord_initial
  · have header : ((Intake.start d.pieces).skipMark.toRecord .initial).1.records = [record] := by
      rw [read]
      rfl
    obtain ⟨records, every⟩ := later.rows entry.state
    rw [octets] at whole length rest inside
    rw [whole, Csv.Reader.ended_behind, ← records] at all
    unfold Intake.scan lengthUsed? recordsRead
    have first : entry.hasBlankHeader = isBlankHeader record := by rw [hasBlankHeader, all]; rfl
    simp only [header, first, length]
    cases isBlankHeader record with
    | true => exact ⟨by rw [all]; rfl, later, needed, rest, inside⟩
    | false => exact ⟨all.symm, later.rows_follows entry.state, every⟩
  · rw [octets] at read length
    have few : entry.records.take 1 = entry.records := by
      refine List.take_of_length_le ?_
      rw [all, ← read]
      exact Csv.Reader.length_ended_of_records_nil _ nothing
    have unused : entry.lengthUsed? = none := by
      rw [lengthUsed?, length]
      exact ite_self _
    unfold Intake.scan
    simp only [nothing, unused]
    refine ⟨?_, later, counted⟩
    rw [recordsRead, few, ite_self, all, ← read, Csv.Reader.ended_of_records_nil _ nothing]

end Entry

namespace Delivery

/-- The delivery of a content in blocks. -/
def inBlocks (content : Octets) : Delivery content where
  pieces := Progress.pieces content
  joined := Progress.flatten_pieces content
  nonempty _ member := List.length_pos_iff.mp (Progress.mem_pieces member).1
  bounded _ member := (Progress.mem_pieces member).2
  first piece rest split := by
    by_cases empty : content = []
    · rw [Progress.pieces, if_pos empty] at split
      contradiction
    · rw [Progress.pieces, if_neg empty] at split
      obtain ⟨rfl, rfl⟩ := List.cons.inj split
      rcases Nat.lt_or_ge Progress.blockSize content.length with many | few
      · refine Or.inr ?_
        rw [List.length_take, Nat.min_eq_left (Nat.le_of_lt many)]
        decide
      · refine Or.inl ?_
        rw [List.drop_eq_nil_of_le few, Progress.pieces, if_pos rfl]

end Delivery

namespace Intake

variable {i : Intake} {content : Octets}

theorem Follows.counted_blocks (follows : i.Follows (Progress.pieces content))
    (needed : i.Needed) :
    i.counted =
      Progress.blocks (Progress.readAhead (content.length - i.ahead.length) content.length) := by
  have lengths : i.counted ++ i.unread.map List.length = Progress.blocks content.length :=
    follows.lengths.trans (Progress.length_pieces content)
  have counted : i.counted = (Progress.blocks content.length).take i.counted.length := by
    rw [← lengths, List.take_left]
  have before : i.counted.dropLast =
      (Progress.blocks content.length).take (i.counted.length - 1) := by
    rw [List.dropLast_eq_take, ← lengths, List.take_append_of_le_length (Nat.sub_le _ _)]
  rw [Progress.take_blocks] at counted before
  have sum : i.counted.sum =
      min content.length (i.counted.length * Progress.blockSize) := by
    rw [counted, Progress.sum_blocks, ← counted]
  have sum_before : i.counted.dropLast.sum =
      min content.length ((i.counted.length - 1) * Progress.blockSize) := by
    rw [before, Progress.sum_blocks]
  have left := follows.length_ahead
  rw [Progress.flatten_pieces] at left
  have taken : Progress.readAhead (content.length - i.ahead.length) content.length =
      min content.length (i.counted.length * Progress.blockSize) := by
    unfold Needed at needed
    unfold Progress.readAhead
    simp only [Progress.blockSize] at *
    omega
  rw [taken]
  exact counted

end Intake

theorem Entry.lengthRead_eq (entry : Entry) :
    entry.lengthRead =
      match entry.lengthUsed? with
      | some n =>
        Progress.readAhead (entry.content.length - (Utf8.withoutMark entry.body).length + n)
          entry.content.length
      | none => entry.content.length := by
  unfold lengthRead lengthUsed?
  cases read : entry.records with
  | nil =>
      have named : entry.hasBlankHeader = false := by rw [hasBlankHeader, read]; rfl
      rw [named]
      rfl
  | cons header rest =>
      have same : entry.hasBlankHeader = isBlankHeader header := by rw [hasBlankHeader, read]; rfl
      rw [same]
      by_cases blank : isBlankHeader header = true
      · cases length : Csv.Reader.initial.lengthToRecord (Utf8.withoutMark entry.body) <;>
          simp only [blank, if_true, length]
      · simp only [blank, Bool.false_eq_true, if_false]

theorem Entry.counted_inBlocks (entry : Entry) :
    (Intake.scan entry.state (Delivery.inBlocks entry.content).pieces).2.counted =
      Progress.blocks entry.lengthRead := by
  obtain ⟨-, follows, used⟩ := entry.scan_pieces (.inBlocks entry.content)
  rw [entry.lengthRead_eq]
  cases length : entry.lengthUsed? with
  | none =>
      rw [length] at used
      exact used.trans (Progress.length_pieces entry.content)
  | some n =>
      rw [length] at used
      obtain ⟨needed, rest, inside⟩ := used
      have shorter : (Utf8.withoutMark entry.body).length ≤ entry.content.length :=
        Nat.le_trans (Utf8.length_withoutMark _) (Utf8.length_withoutMark _)
      rw [follows.counted_blocks needed, rest, List.length_drop]
      congr 2
      omega

end TransitFeed
