import TransitFeed.Json.Basic
import TransitFeed.Proofs.Number.Shortest

/-! # JSON texts are unambiguous

The text of a value with finite numbers determines the value, on one line and on several. No value
is written as the start of another one, unless more of a number could follow.
-/

namespace TransitFeed.Json

/-- The digit that a character stands for in base sixteen. -/
def hexValue (c : Char) : Nat := if c.isDigit then c.toNat - 48 else c.toNat - 87

theorem hexValue_hexDigit : ∀ n < 16, hexValue (hexDigit n) = n := by decide

/-- What a character behind a backslash stands for, and what follows. -/
def unescapeBehind : List Char → Option (Char × List Char)
  | '"' :: rest => some ('"', rest)
  | '\\' :: rest => some ('\\', rest)
  | 'b' :: rest => some ('\x08', rest)
  | 't' :: rest => some ('\t', rest)
  | 'n' :: rest => some ('\n', rest)
  | 'f' :: rest => some ('\x0c', rest)
  | 'r' :: rest => some ('\r', rest)
  | 'u' :: _ :: _ :: high :: low :: rest =>
    some (Char.ofNat (16 * hexValue high + hexValue low), rest)
  | _ => none

/-- The first character of a quoted text, and what follows. At a quotation mark the text ends. -/
def unescape? : List Char → Option (Char × List Char)
  | [] => none
  | c :: rest =>
    if c = '"' then none else if c = '\\' then unescapeBehind rest else some (c, rest)

theorem unescape?_escape (c : Char) (rest : List Char) :
    unescape? (escape c ++ rest) = some (c, rest) := by
  unfold escape
  split
  case h_8 quote backslash _ _ _ _ _ =>
    split
    · next control =>
      have high := hexValue_hexDigit (c.toNat / 16) (by omega)
      have low := hexValue_hexDigit (c.toNat % 16) (by omega)
      have whole : 16 * (c.toNat / 16) + c.toNat % 16 = c.toNat := Nat.div_add_mod _ _
      change some (Char.ofNat (16 * hexValue _ + hexValue _), rest) = _
      rw [high, low, whole, Char.ofNat_toNat]
    · change (if c = '"' then none else if c = '\\' then _ else some (c, rest)) = _
      rw [if_neg quote, if_neg backslash]
  all_goals rfl

theorem quoted_append_inj {a b : String} {s t : List Char}
    (same : quoted a ++ s = quoted b ++ t) : a = b ∧ s = t := by
  have chars (as bs : List Char)
      (same : as.flatMap escape ++ '"' :: s = bs.flatMap escape ++ '"' :: t) : as = bs ∧ s = t := by
    -- On the first text. What is read first on one side is read first on the other.
    induction as generalizing bs with
    | nil =>
        cases bs with
        | nil => exact ⟨rfl, (List.cons.inj same).2⟩
        | cons c bs =>
            rw [List.flatMap_cons, List.append_assoc] at same
            have read := unescape?_escape c (bs.flatMap escape ++ '"' :: t)
            rw [← same] at read
            contradiction
    | cons c as ih =>
        rw [List.flatMap_cons, List.append_assoc] at same
        have read := unescape?_escape c (as.flatMap escape ++ '"' :: s)
        cases bs with
        | nil =>
            rw [same] at read
            contradiction
        | cons d bs =>
            rw [List.flatMap_cons, List.append_assoc] at same
            rw [same, unescape?_escape] at read
            obtain ⟨rfl, later⟩ := Prod.mk.inj (Option.some.inj read)
            obtain ⟨rfl, rest⟩ := ih bs later.symm
            exact ⟨rfl, rest⟩
  unfold quoted at same
  simp only [List.cons_append, List.append_assoc, List.cons.injEq, true_and] at same
  obtain ⟨equal, rest⟩ := chars a.toList b.toList (by simpa using same)
  exact ⟨String.toList_inj.mp equal, rest⟩

/-- Whether a number is at its end before a text. -/
def EndsNumber (rest : List Char) : Prop := rest.takeWhile isNumeric = []

theorem endsNumber_nil : EndsNumber [] := rfl

theorem endsNumber_cons {c : Char} (other : isNumeric c = false) (rest : List Char) :
    EndsNumber (c :: rest) := List.takeWhile_cons_of_neg (by simp [other])

theorem number_append_inj {a b s t : List Char} (numeric : ∀ c ∈ a, isNumeric c = true)
    (numeric' : ∀ c ∈ b, isNumeric c = true) (ends : EndsNumber s) (ends' : EndsNumber t)
    (same : a ++ s = b ++ t) : a = b ∧ s = t := by
  have first : a = b := by
    have read := congrArg (List.takeWhile isNumeric) same
    rwa [List.takeWhile_append_of_pos numeric, List.takeWhile_append_of_pos numeric', ends, ends',
      List.append_nil, List.append_nil] at read
  subst first
  exact ⟨rfl, List.append_cancel_left same⟩

theorem ofNat_injective {n m : Nat} (same : Digits.ofNat n = Digits.ofNat m) : n = m := by
  have value (k : Nat) : Nat.ofDigitChars 10 (Digits.ofNat k) 0 = k := Nat.ofDigitChars_ten_toDigits
  rw [← value n, same, value]

/-- The start of a line, if a text is set on several. -/
def lineStart (spread : Bool) (depth : Nat) : List Char := if spread then newLine depth else []

/-- What stands between the name and the value of a member. -/
def colon (spread : Bool) : List Char := if spread then [':', ' '] else [':']

mutual

/-- The text of a value on one line or on several. -/
def printed (spread : Bool) (depth : Nat) : Json → List Char
  | .count n => Digits.ofNat n
  | .double d => doubleText d
  | .text t => quoted t
  | .array [] => ['[', ']']
  | .array (item :: items) =>
    '[' :: (lineStart spread (depth + 1) ++ (printed spread (depth + 1) item ++
      (printedItems spread (depth + 1) items ++ (lineStart spread depth ++ [']']))))
  | .object [] => ['\x7b', '\x7d']
  | .object ((name, value) :: members) =>
    '\x7b' :: (lineStart spread (depth + 1) ++ (quoted name ++ (colon spread ++
      (printed spread (depth + 1) value ++ (printedMembers spread (depth + 1) members ++
        (lineStart spread depth ++ ['\x7d']))))))

/-- The items behind the first one. -/
def printedItems (spread : Bool) (depth : Nat) : List Json → List Char
  | [] => []
  | item :: items =>
    ',' :: (lineStart spread depth ++ (printed spread depth item ++
      printedItems spread depth items))

/-- The members behind the first one. -/
def printedMembers (spread : Bool) (depth : Nat) : List (String × Json) → List Char
  | [] => []
  | (name, value) :: members =>
    ',' :: (lineStart spread depth ++ (quoted name ++ (colon spread ++
      (printed spread depth value ++ printedMembers spread depth members))))

end

mutual

theorem compact_eq (depth : Nat) (v : Json) : v.compact = v.printed false depth := by
  cases v with
  | count | double | text => simp only [compact, printed]
  | array items =>
      cases items with
      | nil => simp only [compact, compactItems, printed, List.cons_append, List.nil_append]
      | cons item items =>
          simp only [compact, printed, compactItems_eq (depth + 1) item items, lineStart,
            Bool.false_eq_true, if_false, List.cons_append, List.nil_append, List.append_assoc]
  | object members =>
      cases members with
      | nil => simp only [compact, compactMembers, printed, List.cons_append, List.nil_append]
      | cons member members =>
          obtain ⟨name, value⟩ := member
          simp only [compact, printed, compactMembers_eq (depth + 1) name value members, lineStart,
            colon, Bool.false_eq_true, if_false, List.cons_append, List.nil_append,
            List.append_assoc]
termination_by sizeOf v

theorem compactItems_eq (depth : Nat) (item : Json) (items : List Json) :
    compactItems (item :: items) =
      item.printed false depth ++ printedItems false depth items := by
  cases items with
  | nil => simp only [compactItems, printedItems, List.append_nil, compact_eq depth item]
  | cons next items =>
      simp only [compactItems, printedItems, compact_eq depth item,
        compactItems_eq depth next items, lineStart, Bool.false_eq_true, if_false, List.nil_append]
termination_by sizeOf item + sizeOf items

theorem compactMembers_eq (depth : Nat) (name : String) (value : Json)
    (members : List (String × Json)) :
    compactMembers ((name, value) :: members) =
      quoted name ++ (colon false ++ (value.printed false depth ++
        printedMembers false depth members)) := by
  cases members with
  | nil =>
      simp only [compactMembers, printedMembers, List.append_nil, compact_eq depth value, colon,
        Bool.false_eq_true, if_false, List.cons_append, List.nil_append]
  | cons next members =>
      obtain ⟨name', value'⟩ := next
      simp only [compactMembers, printedMembers, compact_eq depth value,
        compactMembers_eq depth name' value' members, lineStart, colon, Bool.false_eq_true,
        if_false, List.nil_append, List.cons_append, List.append_assoc]
termination_by sizeOf value + sizeOf members

end

mutual

theorem pretty_eq (depth : Nat) (v : Json) : v.pretty depth = v.printed true depth := by
  cases v with
  | count | double | text => simp only [pretty, printed]
  | array items =>
      cases items with
      | nil => simp only [pretty, printed]
      | cons item items =>
          simp only [pretty, printed, prettyItems_eq (depth + 1) item items, lineStart,
            if_true, List.cons_append, List.append_assoc]
  | object members =>
      cases members with
      | nil => simp only [pretty, printed]
      | cons member members =>
          obtain ⟨name, value⟩ := member
          simp only [pretty, printed, prettyMembers_eq (depth + 1) name value members, lineStart,
            if_true, List.cons_append, List.append_assoc]
termination_by sizeOf v

theorem prettyItems_eq (depth : Nat) (item : Json) (items : List Json) :
    prettyItems depth (item :: items) =
      lineStart true depth ++ (item.printed true depth ++ printedItems true depth items) := by
  cases items with
  | nil =>
      simp only [prettyItems, printedItems, List.append_nil, pretty_eq depth item, lineStart,
        if_true]
  | cons next items =>
      simp only [prettyItems, printedItems, pretty_eq depth item,
        prettyItems_eq depth next items, lineStart, if_true, List.append_assoc]
termination_by sizeOf item + sizeOf items

theorem prettyMembers_eq (depth : Nat) (name : String) (value : Json)
    (members : List (String × Json)) :
    prettyMembers depth ((name, value) :: members) =
      lineStart true depth ++ (quoted name ++ (colon true ++ (value.printed true depth ++
        printedMembers true depth members))) := by
  cases members with
  | nil =>
      simp only [prettyMembers, printedMembers, List.append_nil, pretty_eq depth value, colon,
        lineStart, if_true, List.cons_append, List.nil_append, List.append_assoc]
  | cons next members =>
      obtain ⟨name', value'⟩ := next
      simp only [prettyMembers, printedMembers, pretty_eq depth value,
        prettyMembers_eq depth name' value' members, lineStart, colon, if_true, List.nil_append,
        List.cons_append, List.append_assoc]
termination_by sizeOf value + sizeOf members

end

mutual

/-- Whether all numbers in a value are finite. -/
def IsFinite : Json → Prop
  | .count _ | .text _ => True
  | .double d => d.isFinite = true
  | .array items => ItemsFinite items
  | .object members => MembersFinite members

def ItemsFinite : List Json → Prop
  | [] => True
  | item :: items => item.IsFinite ∧ ItemsFinite items

def MembersFinite : List (String × Json) → Prop
  | [] => True
  | (_, value) :: members => value.IsFinite ∧ MembersFinite members

end

theorem itemsFinite_iff {items : List Json} :
    ItemsFinite items ↔ ∀ item ∈ items, item.IsFinite := by
  induction items with
  | nil => simp [ItemsFinite]
  | cons item items ih => simp [ItemsFinite, ih]

theorem membersFinite_iff {members : List (String × Json)} :
    MembersFinite members ↔ ∀ member ∈ members, member.2.IsFinite := by
  induction members with
  | nil => simp [MembersFinite]
  | cons member members ih => simp [MembersFinite, ih]

section Numbers

variable {n m : Nat} {a b : Double} {s t : List Char}

theorem isNumeric_ofNat (n : Nat) : ∀ c ∈ Digits.ofNat n, isNumeric c = true :=
  fun c member => isNumeric_of_isDigit (Digits.isDigit_of_mem_ofNat c member)

theorem doubleText_eq (finite : a.isFinite = true) : doubleText a = DecimalLayout.json.text a :=
  if_pos finite

theorem isNumeric_doubleText (finite : a.isFinite = true) :
    ∀ c ∈ doubleText a, isNumeric c = true := by
  rw [doubleText_eq finite]
  exact DecimalLayout.json.isNumeric_text finite

theorem count_append_inj (ends : EndsNumber s) (ends' : EndsNumber t)
    (same : Digits.ofNat n ++ s = Digits.ofNat m ++ t) : n = m ∧ s = t := by
  obtain ⟨digits, rest⟩ :=
    number_append_inj (isNumeric_ofNat n) (isNumeric_ofNat m) ends ends' same
  exact ⟨ofNat_injective digits, rest⟩

theorem double_append_inj (finite : a.isFinite = true) (finite' : b.isFinite = true)
    (ends : EndsNumber s) (ends' : EndsNumber t) (same : doubleText a ++ s = doubleText b ++ t) :
    a = b ∧ s = t := by
  obtain ⟨digits, rest⟩ := number_append_inj (isNumeric_doubleText finite)
    (isNumeric_doubleText finite') ends ends' same
  rw [doubleText_eq finite, doubleText_eq finite'] at digits
  exact ⟨DecimalLayout.json.text_injective finite finite' digits, rest⟩

/-- A double always has a point or a power of ten. -/
theorem count_append_ne_double (finite : a.isFinite = true) (ends : EndsNumber s)
    (ends' : EndsNumber t) : Digits.ofNat n ++ s ≠ doubleText a ++ t := by
  intro same
  obtain ⟨digits, -⟩ :=
    number_append_inj (isNumeric_ofNat n) (isNumeric_doubleText finite) ends ends' same
  obtain ⟨c, member, other⟩ := DecimalLayout.json.exists_mem_text rfl finite
  rw [← doubleText_eq finite, ← digits] at member
  exact absurd (Digits.isDigit_of_mem_ofNat c member) (by simp [other])

end Numbers

/-- What a character says about the value it starts: all numbers start alike. -/
def sign (c : Char) : Char := if isNumeric c then '0' else c

/-- What the text of a value starts with. -/
def start : Json → Char
  | .count _ | .double _ => '0'
  | .text _ => '"'
  | .array _ => '['
  | .object _ => '\x7b'

theorem sign_of_numeric {digits : List Char} (nonempty : digits ≠ [])
    (numeric : ∀ c ∈ digits, isNumeric c = true) :
    ∃ c rest, digits = c :: rest ∧ sign c = '0' := by
  obtain ⟨c, rest, rfl⟩ := List.exists_cons_of_ne_nil nonempty
  exact ⟨c, rest, rfl, if_pos (numeric c List.mem_cons_self)⟩

variable {spread : Bool} {depth : Nat} {s t : List Char}

theorem sign_printed (spread : Bool) (depth : Nat) {v : Json} (finite : v.IsFinite) :
    ∃ c rest, v.printed spread depth = c :: rest ∧ sign c = v.start := by
  cases v with
  | count n =>
      rw [printed]
      exact sign_of_numeric (Digits.ofNat_ne_nil n) (isNumeric_ofNat n)
  | double d =>
      rw [IsFinite] at finite
      rw [printed]
      refine sign_of_numeric ?_ (isNumeric_doubleText finite)
      obtain ⟨c, member, -⟩ := DecimalLayout.json.exists_mem_text rfl finite
      rw [← doubleText_eq finite] at member
      exact List.ne_nil_of_mem member
  | text text => exact ⟨'"', _, by rw [printed]; rfl, rfl⟩
  | array items => cases items <;> exact ⟨'[', _, by rw [printed], rfl⟩
  | object members => rcases members with _ | ⟨⟨name, value⟩, members⟩ <;>
      exact ⟨'\x7b', _, by rw [printed], rfl⟩

theorem start_eq_of_printed_append {v w : Json} (finite : v.IsFinite) (finite' : w.IsFinite)
    (same : v.printed spread depth ++ s = w.printed spread depth ++ t) : v.start = w.start := by
  obtain ⟨c, rest, text, sign⟩ := sign_printed spread depth finite
  obtain ⟨c', rest', text', sign'⟩ := sign_printed spread depth finite'
  rw [text, text'] at same
  rw [← sign, ← sign', (List.cons.inj same).1]

/-- Whether a text neither adds to a number nor to a list. -/
def Closes (rest : List Char) : Prop := ∃ c tail, rest = c :: tail ∧ isNumeric c = false ∧ c ≠ ','

theorem Closes.endsNumber (closes : Closes s) : EndsNumber s := by
  obtain ⟨c, tail, rfl, other, -⟩ := closes
  exact endsNumber_cons other tail

theorem Closes.ne_comma (closes : Closes s) (rest : List Char) : s ≠ ',' :: rest := by
  obtain ⟨c, tail, rfl, -, other⟩ := closes
  exact fun same => other (List.cons.inj same).1

theorem closes_lineStart {bracket : Char} (other : isNumeric bracket = false)
    (apart : bracket ≠ ',') (rest : List Char) :
    Closes (lineStart spread depth ++ bracket :: rest) := by
  cases spread with
  | true => exact ⟨'\n', _, rfl, rfl, by decide⟩
  | false => exact ⟨bracket, rest, rfl, other, apart⟩

theorem endsNumber_printedItems (items : List Json) (closes : Closes s) :
    EndsNumber (printedItems spread depth items ++ s) := by
  cases items with
  | nil =>
      rw [printedItems]
      exact closes.endsNumber
  | cons item items =>
      rw [printedItems]
      exact endsNumber_cons rfl _

theorem endsNumber_printedMembers (members : List (String × Json)) (closes : Closes s) :
    EndsNumber (printedMembers spread depth members ++ s) := by
  rcases members with _ | ⟨⟨name, value⟩, members⟩
  · rw [printedMembers]
    exact closes.endsNumber
  · rw [printedMembers]
    exact endsNumber_cons rfl _

theorem lineStart_append_ne {c bracket : Char} (bracket_ne : bracket ≠ '\n')
    (other : c ≠ bracket) (rest : List Char) :
    lineStart spread depth ++ c :: rest ≠ bracket :: t := by
  cases spread with
  | true => exact fun same => bracket_ne (List.cons.inj same).1.symm
  | false => exact fun same => other (List.cons.inj same).1

theorem lineStart_printed_ne {v : Json} (finite : v.IsFinite) (rest : List Char) :
    lineStart spread depth ++ (v.printed spread depth ++ rest) ≠ ']' :: t := by
  obtain ⟨c, tail, text, first⟩ := sign_printed spread depth finite
  rw [text]
  refine lineStart_append_ne (by decide) ?_ _
  rintro rfl
  have bracket : sign ']' = ']' := rfl
  rw [bracket] at first
  cases v <;> simp [start] at first

theorem printed_array_append (item : Json) (items : List Json) (s : List Char) :
    (array (item :: items)).printed spread depth ++ s =
      '[' :: (lineStart spread (depth + 1) ++ (item.printed spread (depth + 1) ++
        (printedItems spread (depth + 1) items ++ (lineStart spread depth ++ ']' :: s)))) := by
  simp only [printed, List.cons_append, List.nil_append, List.append_assoc]

theorem printed_object_append (name : String) (value : Json) (members : List (String × Json))
    (s : List Char) :
    (object ((name, value) :: members)).printed spread depth ++ s =
      '\x7b' :: (lineStart spread (depth + 1) ++ (quoted name ++ (colon spread ++
        (value.printed spread (depth + 1) ++ (printedMembers spread (depth + 1) members ++
          (lineStart spread depth ++ '\x7d' :: s)))))) := by
  simp only [printed, List.cons_append, List.nil_append, List.append_assoc]

mutual

/-- Of two values neither is written as the start of the other, unless a number could go on. This
    goes from the first value to its parts: each is read off the front, and what follows it is the
    rest of the list, which ends a number. -/
theorem printed_append_inj {depth : Nat} {v w : Json} {s t : List Char}
    (finite : v.IsFinite) (finite' : w.IsFinite) (ends : EndsNumber s) (ends' : EndsNumber t)
    (same : v.printed spread depth ++ s = w.printed spread depth ++ t) : v = w ∧ s = t := by
  -- Values of two kinds start in two ways, but for the numbers.
  have starts := start_eq_of_printed_append finite finite' same
  cases v with
  | count n =>
      rw [printed] at same
      cases w with
      | count m =>
          rw [printed] at same
          obtain ⟨rfl, rest⟩ := count_append_inj ends ends' same
          exact ⟨rfl, rest⟩
      | double b =>
          rw [printed] at same
          exact absurd same (count_append_ne_double finite' ends ends')
      | text | array | object => simp [start] at starts
  | double a =>
      rw [printed] at same
      cases w with
      | count m =>
          rw [printed] at same
          exact absurd same.symm (count_append_ne_double finite ends' ends)
      | double b =>
          rw [printed] at same
          obtain ⟨rfl, rest⟩ := double_append_inj finite finite' ends ends' same
          exact ⟨rfl, rest⟩
      | text | array | object => simp [start] at starts
  | text a =>
      cases w with
      | text b =>
          rw [printed, printed] at same
          obtain ⟨rfl, rest⟩ := quoted_append_inj same
          exact ⟨rfl, rest⟩
      | count | double | array | object => simp [start] at starts
  | array items =>
      cases w with
      | array items' =>
          obtain ⟨rfl, rest⟩ := array_append_inj finite finite' same
          exact ⟨rfl, rest⟩
      | count | double | text | object => simp [start] at starts
  | object members =>
      cases w with
      | object members' =>
          obtain ⟨rfl, rest⟩ := object_append_inj finite finite' same
          exact ⟨rfl, rest⟩
      | count | double | text | array => simp [start] at starts
termination_by sizeOf v

theorem array_append_inj {depth : Nat} {items items' : List Json} {s t : List Char}
    (finite : ItemsFinite items) (finite' : ItemsFinite items')
    (same : (array items).printed spread depth ++ s = (array items').printed spread depth ++ t) :
    items = items' ∧ s = t := by
  match items, items' with
  | [], [] =>
      rw [printed] at same
      exact ⟨rfl, List.append_cancel_left same⟩
  | [], item :: items' =>
      rw [printed_array_append, printed] at same
      exact absurd (List.cons.inj same).2.symm (lineStart_printed_ne finite'.1 _)
  | item :: items, [] =>
      rw [printed_array_append, printed] at same
      exact absurd (List.cons.inj same).2 (lineStart_printed_ne finite.1 _)
  | item :: items, item' :: items' =>
      rw [printed_array_append, printed_array_append] at same
      have inside := List.append_cancel_left (List.cons.inj same).2
      have closes (rest : List Char) : Closes (lineStart spread depth ++ ']' :: rest) :=
        closes_lineStart rfl (by decide) rest
      obtain ⟨rfl, later⟩ := printed_append_inj finite.1 finite'.1
        (endsNumber_printedItems items (closes s)) (endsNumber_printedItems items' (closes t))
        inside
      obtain ⟨rfl, closing⟩ :=
        printedItems_append_inj finite.2 finite'.2 (closes s) (closes t) later
      exact ⟨rfl, (List.cons.inj (List.append_cancel_left closing)).2⟩
termination_by sizeOf items

theorem printedItems_append_inj {depth : Nat} {items items' : List Json} {s t : List Char}
    (finite : ItemsFinite items) (finite' : ItemsFinite items') (closes : Closes s)
    (closes' : Closes t)
    (same : printedItems spread depth items ++ s = printedItems spread depth items' ++ t) :
    items = items' ∧ s = t := by
  match items, items' with
  | [], [] =>
      rw [printedItems] at same
      exact ⟨rfl, same⟩
  | [], item :: items' =>
      rw [printedItems, printedItems] at same
      exact absurd same (closes.ne_comma _)
  | item :: items, [] =>
      rw [printedItems, printedItems] at same
      exact absurd same.symm (closes'.ne_comma _)
  | item :: items, item' :: items' =>
      simp only [printedItems, List.cons_append, List.append_assoc, List.cons.injEq, true_and,
        List.append_cancel_left_eq] at same
      obtain ⟨rfl, later⟩ := printed_append_inj finite.1 finite'.1
        (endsNumber_printedItems items closes) (endsNumber_printedItems items' closes') same
      obtain ⟨rfl, rest⟩ := printedItems_append_inj finite.2 finite'.2 closes closes' later
      exact ⟨rfl, rest⟩
termination_by sizeOf items

theorem object_append_inj {depth : Nat} {members members' : List (String × Json)}
    {s t : List Char} (finite : MembersFinite members) (finite' : MembersFinite members')
    (same : (object members).printed spread depth ++ s =
      (object members').printed spread depth ++ t) : members = members' ∧ s = t := by
  match members, members' with
  | [], [] =>
      rw [printed] at same
      exact ⟨rfl, List.append_cancel_left same⟩
  | [], (name, value) :: members' =>
      rw [printed_object_append, printed] at same
      exact absurd (List.cons.inj same).2.symm (lineStart_append_ne (by decide) (by decide) _)
  | (name, value) :: members, [] =>
      rw [printed_object_append, printed] at same
      exact absurd (List.cons.inj same).2 (lineStart_append_ne (by decide) (by decide) _)
  | (name, value) :: members, (name', value') :: members' =>
      rw [printed_object_append, printed_object_append] at same
      have inside := List.append_cancel_left (List.cons.inj same).2
      have closes (rest : List Char) : Closes (lineStart spread depth ++ '\x7d' :: rest) :=
        closes_lineStart rfl (by decide) rest
      obtain ⟨rfl, behind⟩ := quoted_append_inj inside
      obtain ⟨rfl, later⟩ := printed_append_inj finite.1 finite'.1
        (endsNumber_printedMembers members (closes s))
        (endsNumber_printedMembers members' (closes t)) (List.append_cancel_left behind)
      obtain ⟨rfl, closing⟩ :=
        printedMembers_append_inj finite.2 finite'.2 (closes s) (closes t) later
      exact ⟨rfl, (List.cons.inj (List.append_cancel_left closing)).2⟩
termination_by sizeOf members

theorem printedMembers_append_inj {depth : Nat} {members members' : List (String × Json)}
    {s t : List Char} (finite : MembersFinite members) (finite' : MembersFinite members')
    (closes : Closes s) (closes' : Closes t)
    (same : printedMembers spread depth members ++ s =
      printedMembers spread depth members' ++ t) : members = members' ∧ s = t := by
  match members, members' with
  | [], [] =>
      rw [printedMembers] at same
      exact ⟨rfl, same⟩
  | [], (name, value) :: members' =>
      rw [printedMembers, printedMembers] at same
      exact absurd same (closes.ne_comma _)
  | (name, value) :: members, [] =>
      rw [printedMembers, printedMembers] at same
      exact absurd same.symm (closes'.ne_comma _)
  | (name, value) :: members, (name', value') :: members' =>
      simp only [printedMembers, List.cons_append, List.append_assoc, List.cons.injEq, true_and,
        List.append_cancel_left_eq] at same
      obtain ⟨rfl, behind⟩ := quoted_append_inj same
      obtain ⟨rfl, later⟩ := printed_append_inj finite.1 finite'.1
        (endsNumber_printedMembers members closes) (endsNumber_printedMembers members' closes')
        (List.append_cancel_left behind)
      obtain ⟨rfl, rest⟩ := printedMembers_append_inj finite.2 finite'.2 closes closes' later
      exact ⟨rfl, rest⟩
termination_by sizeOf members

end

theorem compact_injective {v w : Json} (finite : v.IsFinite) (finite' : w.IsFinite)
    (same : v.compact = w.compact) : v = w := by
  rw [compact_eq 0, compact_eq 0] at same
  exact (printed_append_inj finite finite' endsNumber_nil endsNumber_nil
    (congrArg (· ++ []) same)).1

theorem pretty_injective {depth : Nat} {v w : Json} (finite : v.IsFinite) (finite' : w.IsFinite)
    (same : v.pretty depth = w.pretty depth) : v = w := by
  rw [pretty_eq, pretty_eq] at same
  exact (printed_append_inj finite finite' endsNumber_nil endsNumber_nil
    (congrArg (· ++ []) same)).1

end TransitFeed.Json
