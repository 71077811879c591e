import TransitFeed.Csv.Reader

/-! # Complete records

A content may break off within a record. What stands before the last line break that ends a record
is read by itself: it gives the same complete records, and no other ones.
-/

namespace TransitFeed

namespace Utf8

/-- The byte order mark in front, if there is one. -/
def markOf : Octets → Octets
  | 0xEF :: 0xBB :: 0xBF :: _ => byteOrderMark
  | _ => []

theorem withoutMark_byteOrderMark (rest : Octets) :
    withoutMark (byteOrderMark ++ rest) = rest := rfl

theorem mark_cases (octets : Octets) :
    (∃ rest, octets = byteOrderMark ++ rest ∧ markOf octets = byteOrderMark ∧
        withoutMark octets = rest) ∨
      (markOf octets = [] ∧ withoutMark octets = octets ∧ ¬ byteOrderMark <+: octets) := by
  by_cases marked : byteOrderMark <+: octets
  · obtain ⟨rest, rfl⟩ := marked
    exact Or.inl ⟨rest, rfl, rfl, rfl⟩
  · have free : ∀ rest, octets ≠ 0xEF :: 0xBB :: 0xBF :: rest := by
      rintro rest rfl
      exact marked ⟨rest, rfl⟩
    refine Or.inr ⟨?_, ?_, marked⟩
    · unfold markOf
      split
      · exact absurd rfl (free _)
      · rfl
    · unfold withoutMark
      split
      · exact absurd rfl (free _)
      · rfl

theorem markOf_append_withoutMark (octets : Octets) :
    markOf octets ++ withoutMark octets = octets := by
  rcases mark_cases octets with ⟨rest, same, mark, text⟩ | ⟨mark, text, -⟩
  · rw [mark, text, same]
  · rw [mark, text, List.nil_append]

theorem withoutMark_markOf_append {octets part : Octets} (starts : part <+: withoutMark octets) :
    withoutMark (markOf octets ++ part) = part := by
  rcases mark_cases octets with ⟨rest, -, mark, -⟩ | ⟨mark, text, free⟩
  · rw [mark, withoutMark_byteOrderMark]
  · rw [text] at starts
    rw [mark, List.nil_append]
    rcases mark_cases part with ⟨rest, rfl, -, -⟩ | ⟨-, same, -⟩
    · exact absurd ((List.prefix_append _ _).trans starts) free
    · exact same

end Utf8

namespace Csv

namespace Reader

variable (r : Reader) (octets : Octets)

/-- The octets up to the last one that ends a record. -/
def closed (r : Reader) : Octets → Octets
  | [] => []
  | octet :: rest =>
    let next := r.step octet
    let later := next.closed rest
    if later = [] ∧ next.records = r.records then [] else octet :: later

theorem records_step (octet : UInt8) :
    (r.step octet).place = .recordStart ∨ (r.step octet).records = r.records := by
  unfold step
  split <;> first | exact Or.inr rfl | exact Or.inl rfl

theorem closed_isPrefix : r.closed octets <+: octets := by
  induction octets generalizing r with
  | nil => exact List.prefix_rfl
  | cons octet rest ih =>
      rw [closed]
      split
      · exact List.nil_prefix
      · exact List.cons_prefix_cons.mpr ⟨rfl, ih (r.step octet)⟩

theorem records_foldl_closed :
    ((r.closed octets).foldl step r).records = (octets.foldl step r).records := by
  induction octets generalizing r with
  | nil => rfl
  | cons octet rest ih =>
      rw [closed]
      split
      -- Neither this octet nor a later one ends a record, so all of them are left out.
      · next nothing =>
          have same := ih (r.step octet)
          rw [nothing.1] at same
          rw [List.foldl_cons, ← same]
          exact nothing.2.symm
      · exact ih (r.step octet)

theorem place_foldl_closed :
    r.closed octets = [] ∨ ((r.closed octets).foldl step r).place = .recordStart := by
  induction octets generalizing r with
  | nil => exact Or.inl rfl
  | cons octet rest ih =>
      rw [closed]
      split
      · exact Or.inl rfl
      · next something =>
          refine Or.inr ?_
          rcases ih (r.step octet) with last | start
          · rw [List.foldl_cons, last]
            exact (r.records_step octet).resolve_right fun same => something ⟨last, same⟩
          · exact start

end Reader

/-- The content up to its last complete record. -/
def closed (content : Octets) : Octets :=
  Utf8.markOf content ++ Reader.initial.closed (Utf8.withoutMark content)

variable (content : Octets)

theorem closed_isPrefix : closed content <+: content := by
  have inside : closed content <+: Utf8.markOf content ++ Utf8.withoutMark content :=
    (List.prefix_append_right_inj _).mpr (Reader.initial.closed_isPrefix _)
  rwa [Utf8.markOf_append_withoutMark] at inside

theorem scan_closed :
    scan (closed content) =
      (Reader.initial.closed (Utf8.withoutMark content)).foldl Reader.step Reader.initial := by
  rw [scan, closed, Utf8.withoutMark_markOf_append (Reader.initial.closed_isPrefix _)]

/-- The complete records are all that is read of the content up to the last of them. -/
theorem records_closed : records (closed content) = terminated content := by
  have start : (scan (closed content)).place = .recordStart := by
    rw [scan_closed]
    rcases Reader.initial.place_foldl_closed (Utf8.withoutMark content) with nothing | start
    · rw [nothing]
      rfl
    · exact start
  rw [records, Reader.finish, if_pos start, terminated, scan_closed,
    Reader.initial.records_foldl_closed, scan]

/-- The last record may be one that is not complete. -/
theorem terminated_isPrefix_records : terminated content <+: records content := by
  unfold records Reader.finish
  split
  · exact List.prefix_rfl
  · rw [Reader.endRecord, List.reverse_cons]
    exact List.prefix_append _ _

end Csv

end TransitFeed
