import Std.Data.TreeMap.Lemmas
import TransitFeed.Diagnostic.Report
import TransitFeed.Proofs.Json.Unambiguous

/-! # Reports lose nothing

The text of a diagnostic determines the diagnostic, and the text of a report determines the feed,
the sizes of its tables and the diagnostics in their order. The counts of a report are those of its
diagnostics.
-/

namespace TransitFeed

namespace Diagnostic

namespace Kind

/-- The kind with a tag and with members of its own. -/
def ofMembers? : String → List (String × Json) → Option Kind
  | "missing_table", [] => some .missingTable
  | "table_in_subdirectory", [("prefix", .text folder)] => some (.tableInSubdirectory folder)
  | "empty_table", [] => some .emptyTable
  | "missing_column", [] => some .missingColumn
  | "empty_field", [] => some .emptyField
  | "number_parse", [] => some (.cell .number)
  | "time_parse", [] => some (.cell .clock)
  | "date_parse", [] => some (.cell .day)
  | "url_parse", [] => some (.cell .link)
  | "range", [("min", .double low), ("max", .double high), ("actual", .double actual)] =>
    some (.cell (.range low high actual))
  | "missing_key", [] => some .missingKey
  | "duplicate_key", [("key", .text key)] => some (.duplicateKey key)
  | "referential_integrity", [("key", .text key)] => some (.referentialIntegrity key)
  | _, _ => none

theorem ofMembers?_members (kind : Kind) : ofMembers? kind.tag kind.members = some kind := by
  cases kind with
  | cell problem => cases problem <;> rfl
  | _ => rfl

theorem eq_of_members {kind kind' : Kind} (tag : kind.tag = kind'.tag)
    (members : kind.members = kind'.members) : kind = kind' := by
  have read := ofMembers?_members kind
  rw [tag, members, ofMembers?_members] at read
  exact (Option.some.inj read).symm

theorem tag_eq_iff {kind kind' : Kind} : kind.tag = kind'.tag ↔ kind.name = kind'.name := by
  rcases kind with _ | _ | _ | _ | _ | (_ | _ | _ | _ | _) | _ | _ | _ <;>
    rcases kind' with _ | _ | _ | _ | _ | (_ | _ | _ | _ | _) | _ | _ | _ <;>
      simp [tag, name]

/-- Whether the bounds and the value of a range are finite. -/
def IsFinite : Kind → Prop
  | .cell (.range low high actual) =>
    low.isFinite = true ∧ high.isFinite = true ∧ actual.isFinite = true
  | _ => True

theorem IsFinite.members {kind : Kind} (finite : kind.IsFinite) :
    Json.MembersFinite kind.members := by
  cases kind with
  | cell problem =>
      cases problem with
      | range low high actual => exact ⟨finite.1, finite.2.1, finite.2.2, trivial⟩
      | _ => trivial
  | tableInSubdirectory | duplicateKey | referentialIntegrity => exact ⟨trivial, trivial⟩
  | _ => trivial

end Kind

theorem json_injective {a b : Diagnostic} (same : a.json = b.json) : a = b := by
  obtain ⟨table, row, column, kind⟩ := a
  obtain ⟨table', row', column', kind'⟩ := b
  simp only [json, List.cons_append, List.nil_append, Json.object.injEq, List.cons.injEq,
    Prod.mk.injEq, true_and, Json.text.injEq, Json.count.injEq] at same
  obtain ⟨rfl, rfl, rest⟩ := same
  -- The name of the third member tells whether there is a column.
  cases column with
  | none =>
      cases column' with
      | none =>
          obtain ⟨tag, members⟩ := List.cons.inj rest
          obtain rfl := Kind.eq_of_members (Json.text.inj (Prod.mk.inj tag).2) members
          rfl
      | some column' => simp at rest
  | some column =>
      cases column' with
      | none => simp at rest
      | some column' =>
          rw [Option.toList_some, Option.toList_some, List.map_singleton, List.map_singleton,
            List.singleton_append, List.singleton_append] at rest
          obtain ⟨place, behind⟩ := List.cons.inj rest
          obtain rfl := Json.text.inj (Prod.mk.inj place).2
          obtain ⟨tag, members⟩ := List.cons.inj behind
          obtain rfl := Kind.eq_of_members (Json.text.inj (Prod.mk.inj tag).2) members
          rfl

theorem isFinite_json {d : Diagnostic} (finite : d.kind.IsFinite) : d.json.IsFinite := by
  obtain ⟨table, row, column, kind⟩ := d
  cases column with
  | none => exact ⟨trivial, trivial, trivial, finite.members⟩
  | some column => exact ⟨trivial, trivial, trivial, trivial, finite.members⟩

theorem jsonText_injective {a b : Diagnostic} (finite : a.kind.IsFinite)
    (finite' : b.kind.IsFinite) (same : a.jsonText = b.jsonText) : a = b :=
  json_injective (Json.compact_injective (isFinite_json finite) (isFinite_json finite')
    (String.ofList_injective same))

end Diagnostic

namespace Counts

variable {counts counts' : Counts} {name other : String}

theorem json_injective (same : counts.json = counts'.json) : counts.Equiv counts' := by
  refine Std.TreeMap.equiv_iff_toList_eq.mpr
    ((List.map_inj_right ?_).mp (Json.object.inj same))
  rintro ⟨name, n⟩ ⟨name', n'⟩ same
  obtain ⟨rfl, number⟩ := Prod.mk.inj same
  obtain rfl := Json.count.inj number
  rfl

theorem isFinite_json (counts : Counts) : counts.json.IsFinite := by
  refine Json.membersFinite_iff.mpr fun member listed => ?_
  obtain ⟨entry, -, rfl⟩ := List.mem_map.mp listed
  trivial

/-- The sum of the numbers. -/
def total (counts : Counts) : Nat := (counts.toList.map Prod.snd).sum

/-- The sum of the numbers under other names. -/
def others (counts : Counts) (name : String) : Nat :=
  ((counts.toList.filter fun entry => name ≠ entry.1).map Prod.snd).sum

theorem total_insert (counts : Counts) (name : String) (n : Nat) :
    total (counts.insert name n) = n + others counts name := by
  have listed := Std.TreeMap.toList_insert_perm (t := counts) (k := name) (v := n)
  simp only [beq_iff_eq] at listed
  exact (listed.map Prod.snd).sum_nat

theorem total_eq (counts : Counts) (name : String) :
    total counts = counts.getD name 0 + others counts name := by
  rw [Std.TreeMap.getD_eq_getD_getElem?]
  cases entry : counts[name]? with
  | none =>
      have apart : ∀ listed ∈ counts.toList, decide (name ≠ listed.1) = true := by
        rintro ⟨name', n⟩ listed
        have found := Std.TreeMap.mem_toList_iff_getElem?_eq_some.mp listed
        rw [decide_eq_true_eq]
        rintro rfl
        rw [entry] at found
        contradiction
      rw [others, List.filter_eq_self.mpr apart, Option.getD_none, Nat.zero_add, total]
  | some n =>
      -- Entering the number that is there changes nothing.
      have unchanged : (counts.insert name n).Equiv counts := by
        refine Std.TreeMap.Equiv.of_forall_constGet?_eq fun other => ?_
        rw [Std.TreeMap.getElem?_insert]
        split
        · next same => rw [← Std.LawfulEqCmp.eq_of_compare same, entry]
        · rfl
      rw [Option.getD_some, ← total_insert, total, total, unchanged.toList_eq]

theorem total_increment (counts : Counts) (name : String) :
    total (counts.increment name) = total counts + 1 := by
  rw [increment, total_insert, total_eq counts name]
  omega

end Counts

namespace Diagnostic

/-- Whether counts are those of diagnostics by the names of their kinds. -/
structure Tallies (counts : Counts) (diagnostics : List Diagnostic) : Prop where
  each : ∀ name n, counts[name]? = some n ↔
    0 < n ∧ n = diagnostics.countP fun d => d.kind.name = name
  total : Counts.total counts = diagnostics.length

namespace Tallies

variable {counts : Counts} {diagnostics : List Diagnostic}

theorem getD_eq (tallies : Tallies counts diagnostics) (name : String) :
    counts.getD name 0 = diagnostics.countP fun d => d.kind.name = name := by
  rw [Std.TreeMap.getD_eq_getD_getElem?]
  cases entry : counts[name]? with
  | none =>
      refine (Nat.eq_zero_of_not_pos fun positive => ?_).symm
      rw [(tallies.each name _).mpr ⟨positive, rfl⟩] at entry
      contradiction
  | some n => exact ((tallies.each name n).mp entry).2

theorem mem_iff (tallies : Tallies counts diagnostics) {name : String} :
    name ∈ counts ↔ ∃ d ∈ diagnostics, d.kind.name = name := by
  rw [Std.TreeMap.mem_iff_isSome_getElem?, Option.isSome_iff_exists]
  simp only [tallies.each, exists_eq_right, List.countP_pos_iff, decide_eq_true_eq]

theorem nil : Tallies ∅ [] := ⟨fun name n => by simp; omega, rfl⟩

theorem push (tallies : Tallies counts diagnostics) (d : Diagnostic) :
    Tallies (counts.increment d.kind.name) (diagnostics ++ [d]) := by
  refine ⟨fun name n => ?_, ?_⟩
  · rw [Counts.increment, Std.TreeMap.getElem?_insert, List.countP_append, List.countP_singleton]
    split
    · next same =>
      obtain rfl := Std.LawfulEqCmp.eq_of_compare same
      rw [tallies.getD_eq, Option.some.injEq, decide_eq_true rfl, if_pos rfl]
      omega
    · next other =>
      have apart : d.kind.name ≠ name := fun same => other (Std.compare_eq_iff_eq.mpr same)
      rw [tallies.each, decide_eq_false apart, if_neg Bool.false_ne_true, Nat.add_zero]
  · rw [Counts.total_increment, tallies.total, List.length_append, List.length_singleton]

theorem foldl (later : List Diagnostic) (tallies : Tallies counts diagnostics) :
    Tallies (later.foldl (fun counts d => counts.increment d.kind.name) counts)
      (diagnostics ++ later) := by
  induction later generalizing counts diagnostics with
  | nil => rwa [List.append_nil]
  | cons d later ih =>
      rw [← List.singleton_append, ← List.append_assoc]
      exact ih (tallies.push d)

end Tallies

theorem tallies_tally (diagnostics : List Diagnostic) : Tallies (tally diagnostics) diagnostics :=
  Tallies.nil.foldl diagnostics

end Diagnostic

namespace Report

/-- Whether the numbers in all diagnostics are finite. -/
def IsFinite (r : Report) : Prop := ∀ d ∈ r.diagnostics, d.kind.IsFinite

theorem isFinite_json {r : Report} (finite : r.IsFinite) : r.json.IsFinite := by
  refine ⟨trivial, r.tables.isFinite_json, r.counts.isFinite_json, ?_, trivial⟩
  refine Json.itemsFinite_iff.mpr fun item listed => ?_
  obtain ⟨d, reported, rfl⟩ := List.mem_map.mp listed
  exact Diagnostic.isFinite_json (finite d reported)

theorem json_injective {a b : Report} (same : a.json = b.json) :
    a.feed = b.feed ∧ a.tables.Equiv b.tables ∧ a.diagnostics = b.diagnostics := by
  simp only [json, Json.object.injEq, List.cons.injEq, Prod.mk.injEq, true_and, Json.text.injEq,
    Json.array.injEq, and_true] at same
  obtain ⟨feed, tables, -, diagnostics⟩ := same
  exact ⟨feed, Counts.json_injective tables,
    (List.map_inj_right fun _ _ => Diagnostic.json_injective).mp diagnostics⟩

theorem text_injective {a b : Report} (finite : a.IsFinite) (finite' : b.IsFinite)
    (same : a.text = b.text) :
    a.feed = b.feed ∧ a.tables.Equiv b.tables ∧ a.diagnostics = b.diagnostics :=
  json_injective (Json.pretty_injective (isFinite_json finite) (isFinite_json finite')
    (String.ofList_injective same))

/-- The texts of diagnostics and of reports lose nothing, and the counts of a report are the
    numbers of its diagnostics of each kind. -/
theorem text_loses_nothing :
    (∀ a b : Diagnostic, a.kind.IsFinite → b.kind.IsFinite → a.jsonText = b.jsonText → a = b) ∧
      (∀ a b : Report, a.IsFinite → b.IsFinite → a.text = b.text →
        a.feed = b.feed ∧ a.tables.toList = b.tables.toList ∧ a.counts = b.counts ∧
          a.diagnostics = b.diagnostics) ∧
        ∀ r : Report,
          (∀ kind : Diagnostic.Kind, r.counts.getD kind.name 0 =
            r.diagnostics.countP fun d => d.kind.tag = kind.tag) ∧
          (∀ name, name ∈ r.counts ↔ ∃ d ∈ r.diagnostics, d.kind.name = name) ∧
            (r.counts.toList.map Prod.snd).sum = r.diagnostics.length := by
  refine ⟨fun a b finite finite' same => Diagnostic.jsonText_injective finite finite' same, ?_, ?_⟩
  · intro a b finite finite' same
    obtain ⟨feed, tables, diagnostics⟩ := text_injective finite finite' same
    exact ⟨feed, tables.toList_eq, congrArg Diagnostic.tally diagnostics, diagnostics⟩
  · intro r
    have tallies := Diagnostic.tallies_tally r.diagnostics
    refine ⟨fun kind => ?_, fun name => tallies.mem_iff, tallies.total⟩
    simp only [Diagnostic.Kind.tag_eq_iff]
    exact tallies.getD_eq kind.name

/-- A latitude beyond its bound, in a table and a column with characters that are escaped. -/
def beyond (high actual : Double) : Diagnostic :=
  ⟨"st\"ops\\", 2, some "lat\n\x01", .cell (.range (.ofInt (-90)) high actual)⟩

theorem text_loses_nothing_beyond :
    let one := beyond (.ofInt 90) (.nearest false 361 4)
    let other := beyond (.nearest false 180 2) (.nearest false 722 8)
    let again : Diagnostic := ⟨"trips", 3, none, .duplicateKey "\\u0041\","⟩
    let stops : Counts := Std.TreeMap.insert ∅ "stops" 1
    let trips : Counts := Std.TreeMap.insert ∅ "trips" 4
    let first : Report := ⟨"a.zip", stops.insert "trips" 4, [one, again, other]⟩
    let last : Report := ⟨"a.zip", trips.insert "stops" 1, [other, again, one]⟩
    one.jsonText = other.jsonText ∧ one = other ∧ first.text = last.text ∧
      first.tables.toList = last.tables.toList ∧ first.diagnostics = last.diagnostics ∧
        first.counts.getD "RangeError" 0 = 2 ∧ (first.counts.toList.map Prod.snd).sum = 3 := by
  intro one other again stops trips first last
  obtain ⟨diagnostics, reports, counts⟩ := text_loses_nothing
  have finite : one.kind.IsFinite := ⟨by decide +kernel, by decide +kernel, by decide +kernel⟩
  have finite' : other.kind.IsFinite := ⟨by decide +kernel, by decide +kernel, by decide +kernel⟩
  have same : one.jsonText = other.jsonText := congrArg String.ofList (by decide +kernel)
  have same' : first.text = last.text := congrArg String.ofList (by decide +kernel)
  have finites : first.IsFinite := by
    refine List.forall_mem_cons.mpr ⟨finite, List.forall_mem_cons.mpr ⟨trivial, ?_⟩⟩
    exact List.forall_mem_singleton.mpr finite'
  have finites' : last.IsFinite := by
    refine List.forall_mem_cons.mpr ⟨finite', List.forall_mem_cons.mpr ⟨trivial, ?_⟩⟩
    exact List.forall_mem_singleton.mpr finite
  obtain ⟨-, tables, -, listed⟩ := reports first last finites finites' same'
  obtain ⟨kinds, -, total⟩ := counts first
  exact ⟨same, diagnostics one other finite finite' same, same', tables, listed,
    (kinds one.kind).trans (by decide), total⟩

end Report

end TransitFeed
