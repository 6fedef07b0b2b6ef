import ColumnLint.Proofs.Document.Json.Text
import ColumnLint.Proofs.Text.Decimal
import Mathlib.Data.List.Induction
import Mathlib.Data.List.TakeWhile

/-!
# Documents in JSON are read back

What is written for a value is read as the value, unless it holds something that JSON has no way to
say (`parseWithin_print`).  The values that can be said are those of `Value.IsPlain`: they have no
floating point numbers, whole numbers of no more digits than the reader takes, and no object with
two members of one name, of which only the last would be left.

The induction is over the value and carries that its text is read back in front of any text that
does not go on with a number (`ReadsBack`); the blank lines, commas and brackets behind an element
do not.  Lists and objects are read one element after another (`readItems_written`,
`readMembers_written`).  The reader may go as deep as the text is long, which is enough as each
value and each member has a character of its own.
-/

namespace ColumnLint

open ColumnLint.Text

namespace Json

variable {limit : Option Nat} {rest : List Char} {n : Nat}

/-! ### Numbers -/

/-- Whether a number ends before the text. -/
def EndsNumber (rest : List Char) : Prop :=
  ∀ c ∈ rest.head?, c.isDigit = false ∧ c ≠ '.' ∧ c ≠ 'e' ∧ c ≠ 'E'

/-- Whether a whole number has at most `limit` digits. -/
def FitsLimit (limit : Option Nat) (i : Int) : Prop :=
  ∀ k ∈ limit, (Nat.toDigits 10 i.natAbs).length ≤ k

theorem natOfDigits_toDigits (n : Nat) : natOfDigits (Nat.toDigits 10 n) = n := by
  have hfold : natOfDigits (Nat.toDigits 10 n) = Nat.ofDigitChars 10 (Nat.toDigits 10 n) 0 := by
    unfold natOfDigits Nat.ofDigitChars
    simp only [Nat.mul_comm]
  rw [hfold, Nat.ofDigitChars_toDigits (by decide) (by decide)]

theorem EndsNumber.splitFraction (h : EndsNumber rest) : splitFraction rest = ([], rest) := by
  cases rest with
  | nil => rfl
  | cons c rest =>
    obtain ⟨-, hpoint, -⟩ := h c rfl
    rw [Json.splitFraction]
    simpa using hpoint

theorem EndsNumber.splitExponent (h : EndsNumber rest) : splitExponent rest = (none, rest) := by
  cases rest with
  | nil => rfl
  | cons c rest =>
    obtain ⟨-, -, hlower, hupper⟩ := h c rfl
    simp [Json.splitExponent, hlower, hupper]

/-- The digits of a number are taken as a whole, as they have no leading zero. -/
theorem splitWhole_toDigits (h : EndsNumber rest) :
    splitWhole (Nat.toDigits 10 n ++ rest) = (Nat.toDigits 10 n, rest) := by
  by_cases hn : n = 0
  · subst hn
    rfl
  · have hzero := head?_toDigits hn
    have hdigits : ∀ c ∈ Nat.toDigits 10 n, c.isDigit = true := fun c => isDigit_of_mem_toDigits
    have hrest : rest.takeWhile Char.isDigit = [] ∧ rest.dropWhile Char.isDigit = rest := by
      cases rest with
      | nil => exact ⟨rfl, rfl⟩
      | cons c rest => simp [(h c rfl).1]
    unfold splitWhole
    split
    · next r hcs =>
      obtain ⟨c, ds, hds⟩ := List.exists_cons_of_ne_nil (toDigits_ne_nil n)
      rw [hds, List.cons_append] at hcs
      rw [hds, (List.cons.inj hcs).1] at hzero
      exact absurd rfl hzero
    · rw [List.takeWhile_append_of_pos hdigits, List.dropWhile_append_of_pos hdigits, hrest.1,
        hrest.2, List.append_nil]

/-- The digits of a number within the limit are read as the number. -/
theorem readUnsigned_toDigits (negative : Bool) (start : List Char) (h : EndsNumber rest)
    (hlimit : ∀ k ∈ limit, (Nat.toDigits 10 n).length ≤ k) :
    readUnsigned limit negative start (Nat.toDigits 10 n ++ rest) =
      .ok (.int (if negative then -n else n), rest) := by
  have hfits : (limit.any fun k => k < (Nat.toDigits 10 n).length) = false := by
    cases limit with
    | none => rfl
    | some k => simpa using hlimit k rfl
  unfold readUnsigned
  rw [splitWhole_toDigits h]
  simp [h.splitFraction, h.splitExponent, hfits, natOfDigits_toDigits]

/-! ### Words and numbers as values -/

/-- A text that begins with a digit, or with one behind a minus sign, begins with no word. -/
theorem readScalar_of_digit {c : Char} {cs : List Char} (hc : c.isDigit = true) :
    readScalar limit (c :: cs) = readUnsigned limit false (c :: cs) (c :: cs) ∧
      readScalar limit ('-' :: c :: cs) = readUnsigned limit true ('-' :: c :: cs) (c :: cs) := by
  have hletter : ∀ d : Char, d.isDigit = false → d ≠ c := by
    rintro d hd rfl
    rw [hc] at hd
    exact nomatch hd
  have hminus : c ≠ '-' := (hletter '-' (by decide)).symm
  constructor
  · simp [readScalar, wordValues, afterWord?, hletter, hminus]
  · simp [readScalar, wordValues, afterWord?, hletter]

/-- A whole number within the limit is read as a value. -/
theorem readScalar_toString {i : Int} (hrest : EndsNumber rest) (hlimit : FitsLimit limit i) :
    readScalar limit ((toString i).toList ++ rest) = .ok (.int i, rest) := by
  obtain ⟨c, cs, hcs⟩ := List.exists_cons_of_ne_nil (toDigits_ne_nil i.natAbs)
  have hc : c.isDigit = true := isDigit_of_mem_toDigits (hcs ▸ List.mem_cons_self ..)
  rw [toList_toString]
  split_ifs with hsign
  · rw [hcs, List.cons_append, List.cons_append, (readScalar_of_digit hc).2, ← List.cons_append,
      ← hcs, readUnsigned_toDigits true _ hrest hlimit]
    have hneg : -(i.natAbs : Int) = i := by omega
    simp only [↓reduceIte, hneg]
  · rw [hcs, List.cons_append, (readScalar_of_digit hc).1, ← List.cons_append, ← hcs,
      readUnsigned_toDigits false _ hrest hlimit]
    have hpos : (i.natAbs : Int) = i := by omega
    simp only [Bool.false_eq_true, ↓reduceIte, hpos]

theorem readScalar_word (rest : List Char) :
    readScalar limit ("null".toList ++ rest) = .ok (.null, rest) ∧
      readScalar limit ("true".toList ++ rest) = .ok (.bool true, rest) ∧
      readScalar limit ("false".toList ++ rest) = .ok (.bool false, rest) :=
  ⟨rfl, rfl, rfl⟩

end Json

/-- Whether a value is one that JSON can say without loss: it holds no floating point number and
nothing that only YAML has, its whole numbers have at most `limit` digits, and no object has two
members of one name. -/
inductive Value.IsPlain (limit : Option Nat) : Value → Prop
  | null : IsPlain limit .null
  | bool (b : Bool) : IsPlain limit (.bool b)
  | int {i : Int} (h : Json.FitsLimit limit i) : IsPlain limit (.int i)
  | text (s : String) : IsPlain limit (.text s)
  | list {items : List Value} (h : ∀ v ∈ items, IsPlain limit v) : IsPlain limit (.list items)
  | object {members : Members} (hkeys : (members.map Prod.fst).Nodup)
      (h : ∀ m ∈ members, IsPlain limit m.2) : IsPlain limit (.object members)

namespace Json

variable {v : Value} {depth fuel : Nat}

/-! ### Where values begin and end -/

/-- Whether a text begins where a value can: with no blank and no closing bracket. -/
def BeginsValue (cs : List Char) : Prop :=
  ∃ c r, cs = c :: r ∧ c ∉ [' ', '\t', '\n', '\r', ']', '\x7d', '\uFEFF']

theorem BeginsValue.append {cs : List Char} (h : BeginsValue cs) (rest : List Char) :
    BeginsValue (cs ++ rest) := by
  obtain ⟨c, r, rfl, hc⟩ := h
  exact ⟨c, r ++ rest, rfl, hc⟩

theorem BeginsValue.skipBlanks {cs : List Char} (h : BeginsValue cs) : skipBlanks cs = cs := by
  obtain ⟨c, r, rfl, hc⟩ := h
  simp only [List.mem_cons, List.not_mem_nil, or_false, not_or] at hc
  obtain ⟨hspace, htab, hfeed, hreturn, -⟩ := hc
  simp [Json.skipBlanks, hspace, htab, hfeed, hreturn]

/-- A number holds none of the characters that blanks, texts, lists and objects begin or end with. -/
theorem notMem_toString {c : Char} {i : Int} (h : c ∈ (toString i).toList) :
    c ∉ [' ', '\t', '\n', '\r', '"', '[', ']', '\x7b', '\x7d', '\uFEFF'] := by
  have htable : [' ', '\t', '\n', '\r', '"', '[', ']', '\x7b', '\x7d', '\uFEFF'].all
      (fun c => c.isDigit = false ∧ c ≠ '-') = true := by decide
  intro hc
  obtain ⟨hdigit, hminus⟩ := of_decide_eq_true (List.all_eq_true.mp htable c hc)
  rcases isDigit_or_eq_of_mem_toString h with hown | hown
  · exact absurd hown (by simp [hdigit])
  · exact hminus hown

theorem beginsValue_toString (i : Int) : BeginsValue (toString i).toList := by
  obtain ⟨c, cs, hcs⟩ : ∃ c cs, (toString i).toList = c :: cs := by
    refine List.exists_cons_of_ne_nil ?_
    rw [toList_toString]
    split_ifs
    · exact List.cons_ne_nil _ _
    · exact toDigits_ne_nil _
  have hnone := notMem_toString (hcs ▸ List.mem_cons_self .. : c ∈ (toString i).toList)
  refine ⟨c, cs, hcs, fun hc => hnone ?_⟩
  simp only [List.mem_cons, List.not_mem_nil, or_false] at hc ⊢
  tauto

theorem beginsValue_write (depth : Nat) (h : v.IsPlain limit) : BeginsValue (write depth v) := by
  cases h with
  | null => exact ⟨'n', _, rfl, by decide⟩
  | bool b => cases b <;> exact ⟨_, _, rfl, by decide⟩
  | @int i _ =>
    unfold write
    exact beginsValue_toString i
  | text s => exact ⟨'"', _, rfl, by decide⟩
  | @list items _ => cases items <;> exact ⟨'[', _, rfl, by decide⟩
  | @object members _ _ => cases members <;> exact ⟨'\x7b', _, rfl, by decide⟩

theorem skipBlanks_lineBreak (depth : Nat) (cs : List Char) :
    skipBlanks (lineBreak depth ++ cs) = skipBlanks cs := by
  unfold skipBlanks lineBreak
  rw [List.dropWhile_append_of_pos]
  intro c hc
  rcases List.mem_cons.mp hc with rfl | hc
  · rfl
  · rw [List.eq_of_mem_replicate hc]
    rfl

theorem endsNumber_lineBreak (depth : Nat) (cs : List Char) :
    EndsNumber (lineBreak depth ++ cs) := by
  intro c hc
  obtain rfl : '\n' = c := Option.some.inj hc
  decide

/-! ### Values -/

/-- Whether a value is read back where it is written, at any depth and before any text that does not
go on with a number, as soon as the reader may go as deep as the text is long. -/
def ReadsBack (limit : Option Nat) (v : Value) : Prop :=
  ∀ depth fuel rest, (write depth v).length ≤ fuel → EndsNumber rest →
    readValue limit fuel (write depth v ++ rest) = .ok (v, rest)

/-- Words and numbers are read as scalars. -/
theorem readsBack_of_readScalar (hplain : v.IsPlain limit)
    (hhead : ∀ depth, ∀ c ∈ (write depth v).head?, c ≠ '"' ∧ c ≠ '[' ∧ c ≠ '\x7b')
    (h : ∀ depth rest, EndsNumber rest →
      readScalar limit (write depth v ++ rest) = .ok (v, rest)) :
    ReadsBack limit v := by
  intro depth fuel rest hfuel hrest
  obtain ⟨c, r, hwritten, -⟩ := beginsValue_write depth hplain
  obtain ⟨hquote, hbracket, hbrace⟩ := hhead depth c (by rw [hwritten]; rfl)
  have hscalar := h depth rest hrest
  rw [hwritten] at hfuel hscalar ⊢
  cases fuel with
  | zero => exact absurd hfuel (by simp)
  | succ fuel =>
    rw [List.cons_append, readValue]
    · exact hscalar
    all_goals simp [hquote, hbracket, hbrace]

theorem readsBack_text (s : String) : ReadsBack limit (.text s) := by
  intro depth fuel rest hfuel _
  have hwritten : write depth (.text s) ++ rest =
      '"' :: (s.toList.flatMap escapedChar ++ '"' :: rest) := by
    simp [write, writeText]
  cases fuel with
  | zero => exact absurd hfuel (by simp [write, writeText])
  | succ fuel =>
    rw [hwritten, readValue, readText_written]
    simp [Except.map, String.ofList_toList]

/-- An element of a list is read back: the last one in front of the closing bracket, and any other in
front of a comma, behind which the list goes on. -/
theorem readItems_step {x : Value} {more r : List Char} (hx : ReadsBack limit x)
    (hfuel : (write depth x).length ≤ fuel) (hmore : EndsNumber more) :
    (skipBlanks more = ']' :: r →
      readItems limit (fuel + 1) (write depth x ++ more) = .ok ([x], r)) ∧
    (skipBlanks more = ',' :: r →
      readItems limit (fuel + 1) (write depth x ++ more) =
        (readItems limit fuel (skipBlanks r)).map fun p => (x :: p.1, p.2)) := by
  have hread := hx depth fuel more hfuel hmore
  constructor
  · intro hlast
    rw [readItems]
    simp only [hread, hlast]
  · intro hcomma
    rw [readItems]
    simp only [hread, hcomma]

/-- A member of an object is read back, likewise. -/
theorem readMembers_step {m : String × Value} {more r : List Char} (hm : ReadsBack limit m.2)
    (hbegins : BeginsValue (write depth m.2)) (hfuel : (write depth m.2).length ≤ fuel)
    (hmore : EndsNumber more) :
    (skipBlanks more = '\x7d' :: r →
      readMembers limit (fuel + 1) (writeText m.1 ++ ':' :: ' ' :: (write depth m.2 ++ more)) =
        .ok ([m], r)) ∧
    (skipBlanks more = ',' :: r →
      readMembers limit (fuel + 1) (writeText m.1 ++ ':' :: ' ' :: (write depth m.2 ++ more)) =
        (readMembers limit fuel (skipBlanks r)).map fun p => (m :: p.1, p.2)) := by
  have hread := hm depth fuel more hfuel hmore
  have hcolon : ∀ cs, skipBlanks (':' :: cs) = ':' :: cs := fun _ => rfl
  have hspace : ∀ cs, skipBlanks (' ' :: cs) = skipBlanks cs := fun _ => rfl
  unfold writeText
  rw [List.cons_append, List.cons_append, List.append_assoc, readMembers, List.singleton_append,
    readText_written]
  simp only [hcolon, hspace, (hbegins.append _).skipBlanks, hread, String.ofList_toList]
  constructor
  · intro hlast
    simp only [hlast]
  · intro hcomma
    simp only [hcomma]

theorem skipBlanks_comma (cs : List Char) : skipBlanks (',' :: cs) = ',' :: cs := rfl

theorem endsNumber_comma (cs : List Char) : EndsNumber (',' :: cs) := by
  rintro c ⟨⟩
  decide

/-- The elements of a list are read back one after another, up to the closing bracket. -/
theorem readItems_written {x : Value} {r : List Value} (outer : Nat)
    (h : ∀ v ∈ x :: r, ReadsBack limit v ∧ BeginsValue (write depth v)) (rest : List Char)
    (hfuel : (write depth x ++ writeItems depth r).length < fuel) :
    readItems limit fuel
        (write depth x ++ (writeItems depth r ++ (lineBreak outer ++ ']' :: rest))) =
      .ok (x :: r, rest) := by
  obtain ⟨fuel, rfl⟩ : ∃ f, fuel = f + 1 := ⟨fuel - 1, by omega⟩
  rw [List.length_append] at hfuel
  obtain ⟨hx, -⟩ := h x (List.mem_cons_self ..)
  induction r generalizing x fuel with
  | nil =>
    have hlast : skipBlanks (lineBreak outer ++ ']' :: rest) = ']' :: rest :=
      skipBlanks_lineBreak outer _
    rw [writeItems, List.nil_append,
      (readItems_step hx (by omega) (endsNumber_lineBreak outer _)).1 hlast]
  | cons y r ih =>
    obtain ⟨hy, hbegins⟩ := h y (List.mem_cons_of_mem _ (List.mem_cons_self ..))
    have hlength : (writeItems depth (y :: r)).length =
        2 * depth + 2 + (write depth y).length + (writeItems depth r).length := by
      simp [writeItems, lineBreak]
      omega
    obtain ⟨fuel, rfl⟩ : ∃ f, fuel = f + 1 := ⟨fuel - 1, by omega⟩
    have hrest := ih (fun v hv => h v (List.mem_cons_of_mem _ hv)) fuel (by omega) hy
    rw [writeItems]
    simp only [List.cons_append, List.append_assoc]
    rw [(readItems_step hx (by omega) (endsNumber_comma _)).2 (skipBlanks_comma _)]
    simp only [skipBlanks_lineBreak, (hbegins.append _).skipBlanks, hrest]
    rfl

/-- The members of an object are read back one after another, up to the closing bracket. -/
theorem readMembers_written {m : String × Value} {r : Members} (outer : Nat)
    (h : ∀ m' ∈ m :: r, ReadsBack limit m'.2 ∧ BeginsValue (write depth m'.2)) (rest : List Char)
    (hfuel : (write depth m.2 ++ writeMembers depth r).length < fuel) :
    readMembers limit fuel
        (writeText m.1 ++ ':' :: ' ' :: (write depth m.2 ++ (writeMembers depth r ++
          (lineBreak outer ++ '\x7d' :: rest)))) =
      .ok (m :: r, rest) := by
  obtain ⟨fuel, rfl⟩ : ∃ f, fuel = f + 1 := ⟨fuel - 1, by omega⟩
  rw [List.length_append] at hfuel
  obtain ⟨hm, hbegins⟩ := h m (List.mem_cons_self ..)
  induction r generalizing m fuel with
  | nil =>
    have hlast : skipBlanks (lineBreak outer ++ '\x7d' :: rest) = '\x7d' :: rest :=
      skipBlanks_lineBreak outer _
    rw [writeMembers, List.nil_append,
      (readMembers_step hm hbegins (by omega) (endsNumber_lineBreak outer _)).1 hlast]
  | cons m' r ih =>
    obtain ⟨hm', hbegins'⟩ := h m' (List.mem_cons_of_mem _ (List.mem_cons_self ..))
    have hlength : 2 + (write depth m'.2).length + (writeMembers depth r).length ≤
        (writeMembers depth (m' :: r)).length := by
      simp [writeMembers, lineBreak]
      omega
    obtain ⟨fuel, rfl⟩ : ∃ f, fuel = f + 1 := ⟨fuel - 1, by omega⟩
    have hrest := ih (fun v hv => h v (List.mem_cons_of_mem _ hv)) fuel (by omega) hm' hbegins'
    have hquote : ∀ cs, skipBlanks (writeText m'.1 ++ cs) = writeText m'.1 ++ cs := fun _ => rfl
    rw [writeMembers]
    simp only [List.cons_append, List.append_assoc]
    rw [(readMembers_step hm hbegins (by omega) (endsNumber_comma _)).2 (skipBlanks_comma _)]
    simp only [skipBlanks_lineBreak, hquote, List.nil_append, hrest]
    rfl

/-! ### Members under distinct names -/

/-- A new name is put behind the others. -/
theorem put_of_notMem {members : Members} {key : String} (h : key ∉ members.map Prod.fst) :
    members.put key v = members ++ [(key, v)] := by
  induction members with
  | nil => rfl
  | cons m members ih =>
    rw [List.map_cons, List.mem_cons, not_or] at h
    rw [Members.put, if_neg (Ne.symm h.1), ih h.2, List.cons_append]

/-- Members under distinct names are all kept, in their order. -/
theorem ofPairs_of_nodup {members : Members} (h : (members.map Prod.fst).Nodup) :
    Members.ofPairs members = members := by
  unfold Members.ofPairs
  -- The members are put one after another, so the induction is from the end.
  induction members using List.reverseRecOn with
  | nil => rfl
  | append_singleton members m ih =>
    rw [List.map_append, List.nodup_append] at h
    obtain ⟨hfront, -, hlast⟩ := h
    have hnew : m.1 ∉ members.map Prod.fst := fun hm =>
      hlast m.1 hm m.1 (List.mem_cons_self ..) rfl
    rw [List.foldl_append, ih hfront, List.foldl_cons, List.foldl_nil, put_of_notMem hnew]

/-! ### Values of all kinds -/

theorem readsBack_int {i : Int} (h : FitsLimit limit i) : ReadsBack limit (.int i) := by
  have hwritten : ∀ depth, write depth (.int i) = (toString i).toList := fun depth => by
    rw [write]
  refine readsBack_of_readScalar (.int h) ?_ ?_
  · intro depth c hc
    have hnone := notMem_toString (List.mem_of_mem_head? (hwritten depth ▸ hc))
    simp only [List.mem_cons, List.not_mem_nil, or_false, not_or] at hnone
    tauto
  · intro depth rest hrest
    rw [hwritten]
    exact readScalar_toString hrest h

theorem readsBack_list {items : List Value} (hplain : ∀ v ∈ items, v.IsPlain limit)
    (h : ∀ v ∈ items, ReadsBack limit v) : ReadsBack limit (.list items) := by
  intro depth fuel rest hfuel _
  cases items with
  | nil =>
    obtain ⟨fuel, rfl⟩ : ∃ f, fuel = f + 1 := ⟨fuel - 1, by simp [write] at hfuel; omega⟩
    rfl
  | cons x r =>
    have hboth : ∀ v ∈ x :: r, ReadsBack limit v ∧ BeginsValue (write (depth + 1) v) :=
      fun v hv => ⟨h v hv, beginsValue_write (depth + 1) (hplain v hv)⟩
    have hbegins := (hboth x (List.mem_cons_self ..)).2
    have hlength : (write (depth + 1) x ++ writeItems (depth + 1) r).length + 2 <
        (write depth (.list (x :: r))).length := by
      simp [write, lineBreak]
      omega
    obtain ⟨fuel, rfl⟩ : ∃ f, fuel = f + 1 := ⟨fuel - 1, by omega⟩
    have hitems := readItems_written depth hboth rest (show _ < fuel by omega)
    obtain ⟨c, cs, hcs, hc⟩ :=
      hbegins.append (writeItems (depth + 1) r ++ (lineBreak depth ++ ']' :: rest))
    have hbracket : c ≠ ']' := by
      rintro rfl
      exact hc (by decide)
    rw [write]
    simp only [List.cons_append, List.append_assoc, List.nil_append]
    rw [readValue, skipBlanks_lineBreak, (hbegins.append _).skipBlanks]
    rw [hcs] at hitems ⊢
    split
    · next heq => exact absurd (List.cons.inj heq).1 hbracket
    · rw [hitems]
      rfl

theorem readsBack_object {members : Members} (hkeys : (members.map Prod.fst).Nodup)
    (hplain : ∀ m ∈ members, m.2.IsPlain limit) (h : ∀ m ∈ members, ReadsBack limit m.2) :
    ReadsBack limit (.object members) := by
  intro depth fuel rest hfuel _
  cases members with
  | nil =>
    obtain ⟨fuel, rfl⟩ : ∃ f, fuel = f + 1 := ⟨fuel - 1, by simp [write] at hfuel; omega⟩
    rfl
  | cons m r =>
    have hboth : ∀ m' ∈ m :: r, ReadsBack limit m'.2 ∧ BeginsValue (write (depth + 1) m'.2) :=
      fun m' hm' => ⟨h m' hm', beginsValue_write (depth + 1) (hplain m' hm')⟩
    have hlength : (write (depth + 1) m.2 ++ writeMembers (depth + 1) r).length + 2 <
        (write depth (.object (m :: r))).length := by
      simp [write, lineBreak]
      omega
    obtain ⟨fuel, rfl⟩ : ∃ f, fuel = f + 1 := ⟨fuel - 1, by omega⟩
    have hmembers := readMembers_written depth hboth rest (show _ < fuel by omega)
    have hquote : ∀ cs, skipBlanks (writeText m.1 ++ cs) = writeText m.1 ++ cs := fun _ => rfl
    rw [write]
    simp only [List.cons_append, List.append_assoc, List.nil_append]
    rw [readValue, skipBlanks_lineBreak, hquote]
    split
    · next heq => exact absurd (List.cons.inj heq).1 (by decide)
    · rw [hmembers]
      simp only [Except.map, ofPairs_of_nodup hkeys]

/-- Every value that can be said is read back. -/
theorem readsBack_of_isPlain (h : v.IsPlain limit) : ReadsBack limit v := by
  induction h with
  | null =>
    exact readsBack_of_readScalar .null (fun _ => by rintro c ⟨⟩; decide)
      fun _ rest _ => (readScalar_word rest).1
  | bool b =>
    refine readsBack_of_readScalar (.bool b) ?_ ?_
    · intro depth
      cases b <;> (rintro c ⟨⟩; decide)
    · intro depth rest _
      cases b with
      | true => exact (readScalar_word rest).2.1
      | false => exact (readScalar_word rest).2.2
  | int h => exact readsBack_int h
  | text s => exact readsBack_text s
  | list h ih => exact readsBack_list h ih
  | object hkeys h ih => exact readsBack_object hkeys h ih

/-! ### Texts as a whole -/

/-- The text of a value that can be said is read as the value. -/
theorem parseWithin_print (h : v.IsPlain limit) : parseWithin limit (print v) = .ok v := by
  have hbegins : BeginsValue (write 0 v) := beginsValue_write 0 h
  have hread : readValue limit (2 * (write 0 v).length + 2) (write 0 v) = .ok (v, []) := by
    have hnothing : EndsNumber [] := by
      rintro c ⟨⟩
    have hwhole := readsBack_of_isPlain h 0 (2 * (write 0 v).length + 2) [] (by omega) hnothing
    rwa [List.append_nil] at hwhole
  have hskip := hbegins.skipBlanks
  obtain ⟨c, cs, hcs, hc⟩ := hbegins
  have hmark : c ≠ '\uFEFF' := by
    rintro rfl
    exact hc (by decide)
  have hchars : parseChars limit (write 0 v) = .ok v := by
    unfold parseChars
    split
    · next heq => exact absurd (List.cons.inj (hcs.symm.trans heq)).1 hmark
    · rw [hskip, hread]
      rfl
  unfold parseWithin print
  rw [String.toList_ofList, hchars]
  rfl

end Json

end ColumnLint
