import ColumnLint.Proofs.Sql.Reads
import ColumnLint.Proofs.Text.Upper
import ColumnLint.Signature
import ColumnLint.Sql.Parser.Type
import Mathlib.Data.List.Forall2

/-!
# How types are written

A type is written plainly if it is one word that the dialect knows, or a name in the dialects that
have types of their users, with sizes between brackets or none (`WritesType`).  Further words may
follow that say more about it (`IsSuffix`).

The base name and the sizes of such a type make a signature that is what is written
(`write_of_writesSizes`), without the further words.
-/

namespace ColumnLint.Sql

open ColumnLint.Text

variable {d : Dialect} {t first : Token} {name : TypeName} {head : TypeHead}
  {tokens suffix : List Token} {sizes : List String}

/-! ### Tokens of types -/

/-- What a token says, without regard to letter case and the quotes of names. -/
def Token.written (d : Dialect) (t : Token) : String :=
  match t.kind with
  | .string => d.writtenText t.text
  | .word | .name => t.upperText
  | .number | .sign => t.text

/-- What tokens say, without the blanks between them. -/
def writtenText (d : Dialect) (tokens : List Token) : String :=
  String.join (tokens.map (Token.written d))

/-- The built-in type that a token names, as a word or between quotes. -/
def Token.builtIn? (d : Dialect) (t : Token) : Option TypeName :=
  match t.typeName? d with
  | some name => if name.standard = "USER-DEFINED" then none else some name
  | none =>
    if t.kind = .name then
      match ((tokensOf d t.text).getD []).filterMap fun u => some (u.typeName? d) with
      | [some name] => some name
      | _ => none
    else none

/-- Whether a token begins the name of a type that users have defined. -/
def Token.beginsName (d : Dialect) (t : Token) : Bool :=
  d.hasNamedTypes && (t.isPlain d || (t.kind = .name && (t.builtIn? d).isNone))

/-- Whether a token is a size: a number, a text, a star or a word. -/
def Token.isSize (d : Dialect) (t : Token) : Bool :=
  match t.kind with
  | .number | .string => true
  | .sign => t.text = "*"
  | .word | .name => t.mayName d

/-- Whether a token is a value of a type that lists its values. -/
def Token.isValue (t : Token) : Bool :=
  t.kind = .string || t.kind = .number

/-- Whether a token is an argument of a type. -/
def TypeHead.takes (d : Dialect) (t : Token) : TypeHead → Bool
  | .builtIn name => if name.holdsValues then t.isValue else t.isSize d
  | _ => t.isSize d

/-! ### Plain types -/

/-- Parts of a name that follow points. -/
inductive WritesTail : List Token → List String → Prop
  | nil : WritesTail [] []
  | cons {dot t : Token} {tokens : List Token} {parts : List String} (hdot : dot.isSign "." = true)
      (ht : t.kind = .word ∨ t.kind = .name) (hmust : t.mustName = true)
      (h : WritesTail tokens parts) : WritesTail (dot :: t :: tokens) (t.text :: parts)

/-- Arguments between commas. -/
inductive WritesArguments (d : Dialect) (head : TypeHead) : List Token → List String → Prop
  | last {t : Token} (ht : head.takes d t = true)
      (hkept : Signature.parameter (t.written d) = t.written d) :
      WritesArguments d head [t] [t.written d]
  | more {t comma : Token} {tokens : List Token} {sizes : List String}
      (ht : head.takes d t = true) (hkept : Signature.parameter (t.written d) = t.written d)
      (hcomma : comma.isSign "," = true) (h : WritesArguments d head tokens sizes) :
      WritesArguments d head (t :: comma :: tokens) (t.written d :: sizes)

/-- The word or name of a type. -/
inductive WritesHead (d : Dialect) : TypeHead → List Token → Prop
  /-- One word, which is spelled as a word; three words are not, as they may lead up to a type. -/
  | builtIn {t : Token} {name : TypeName} (hname : t.builtIn? d = some name)
      (hspelled : spelledType? [t] = some t.upperText) : WritesHead d (.builtIn name) [t]
  /-- A name; one dialect keeps the quotes of a name that stands alone. -/
  | named {first : Token} {tokens : List Token} {parts : List String}
      (hfirst : first.beginsName d = true) (htail : WritesTail tokens parts)
      (hquoted : d = .postgres → first.kind = .name → parts ≠ [])
      (hblank : isAllBlank first.text = false) :
      WritesHead d (.named (parts.foldl (fun s part => s ++ "." ++ part) first.text))
        (first :: tokens)

/-- Whether sizes may follow a type, each of one token. -/
def TypeHead.takesSizes : TypeHead → Bool
  | .builtIn name =>
    !name.isBare && !name.holdsFields && !name.holdsTypes && name.standard ≠ "VECTOR"
  | .named _ => true
  | _ => false

/-- The sizes of a type between brackets, or none; one dialect gives numbers without sizes some of
its own. -/
inductive WritesSizes (d : Dialect) (head : TypeHead) : List Token → List String → Prop
  | none (h : d = .snowflake → head ≠ .builtIn ⟨"DECIMAL"⟩) : WritesSizes d head [] []
  | some {opening closing : Token} {tokens : List Token} {sizes : List String}
      (htakes : head.takesSizes = true) (hopening : opening.isSign "(" = true)
      (h : WritesArguments d head tokens sizes) (hclosing : closing.isSign ")" = true) :
      WritesSizes d head (opening :: (tokens ++ [closing])) sizes

/-- A type that is written plainly. -/
inductive WritesType (d : Dialect) (head : TypeHead) : List Token → List String → Prop
  | mk {word brackets : List Token} {sizes : List String} (hword : WritesHead d head word)
      (hsizes : WritesSizes d head brackets sizes) : WritesType d head (word ++ brackets) sizes

/-- Tokens that are the given words or names. -/
def Spell (tokens : List Token) (words : List String) : Prop :=
  List.Forall₂ (fun t w => t.spells w = true) tokens words

/-- Words that may follow a built-in type and its sizes and say more about it; none may, too. -/
inductive IsSuffix (d : Dialect) : TypeHead → List Token → Prop
  | none {head : TypeHead} : IsSuffix d head []
  | zone {name : TypeName} {tokens : List Token} (hname : name.takesZone d = true)
      (h : Spell tokens ["WITH", "TIME", "ZONE"]) : IsSuffix d (.builtIn name) tokens
  | localZone {name : TypeName} {tokens : List Token} (hname : name.takesZone d = true)
      (h : Spell tokens ["WITH", "LOCAL", "TIME", "ZONE"]) : IsSuffix d (.builtIn name) tokens
  | noZone {name : TypeName} {tokens : List Token} (hname : name.takesZone d = true)
      (h : Spell tokens ["WITHOUT", "TIME", "ZONE"]) : IsSuffix d (.builtIn name) tokens
  | unsigned {name : TypeName} {tokens : List Token} (hname : name.unsigned?.isSome = true)
      (h : Spell tokens ["UNSIGNED"]) : IsSuffix d (.builtIn name) tokens

/-- The phrases that tell the zone of a time. -/
def zonePhrases : List (List String) :=
  [["WITH", "TIME", "ZONE"], ["WITH", "LOCAL", "TIME", "ZONE"], ["WITHOUT", "TIME", "ZONE"]]

/-- Tokens that do not go on with a type. -/
structure EndsType (d : Dialect) (after : List Token) : Prop where
  sign : ∀ s ∈ ["(", "<", "[", "."], Parser.headIs (·.isSign s) after = false
  array : Parser.headIs (·.isWord "ARRAY") after = false
  unit : Parser.headIs (fun t => t.isPlain d && intervalUnits.contains t.upperText) after = false
  zone : ∀ words ∈ zonePhrases, Parser.leads words after = false
  unsigned : Parser.leads ["UNSIGNED"] after = false
  brackets : Parser.leads ["[", "]"] after = false

theorem kind_of_isSign {s : String} (h : t.isSign s = true) : t.kind = .sign ∧ t.text = s := by
  simpa [Token.isSign] using h

/-! ### Lengths and sizes -/

theorem length_le_of_writesArguments (h : WritesArguments d head tokens sizes) :
    sizes.length ≤ tokens.length := by
  induction h with
  | last _ _ => exact Nat.le_refl _
  | more _ _ _ _ ih =>
    simp only [List.length_cons]
    omega

theorem length_le_of_writesTail {parts : List String} (h : WritesTail tokens parts) :
    parts.length ≤ tokens.length := by
  induction h with
  | nil => exact Nat.le_refl _
  | cons _ _ _ _ ih =>
    simp only [List.length_cons]
    omega

theorem sizes_eq_nil_of_not_takesSizes {brackets : List Token}
    (h : WritesSizes d head brackets sizes) (htakes : head.takesSizes = false) :
    brackets = [] ∧ sizes = [] := by
  cases h with
  | none => exact ⟨rfl, rfl⟩
  | some htakes' => exact absurd htakes' (by rw [htakes]; exact Bool.false_ne_true)

/-- A type that holds others takes no sizes. -/
theorem takesSizes_of_holds (h : (name.holdsFields || name.holdsTypes) = true) :
    (TypeHead.builtIn name).takesSizes = false := by
  obtain h | h := (Bool.or_eq_true ..).mp h <;> simp [TypeHead.takesSizes, h]

/-! ### Further words -/

/-- The types that further words may follow. -/
def suffixedTypes : List String := [
  "BIGINT", "INT", "MEDIUMINT", "SMALLINT", "TINYINT", "DECIMAL", "DOUBLE", "TIMESTAMP",
  "TIMESTAMPTZ", "TIMESTAMPLTZ", "TIMETZ", "TIME"]

theorem mem_suffixedTypes_of_takesZone (h : name.takesZone d = true) :
    name.standard ∈ suffixedTypes := by
  simp only [TypeName.takesZone, Bool.or_eq_true, List.contains_iff_mem] at h
  obtain h | h := h
  · exact (by decide : ["TIMESTAMP", "TIMESTAMPTZ", "TIMESTAMPLTZ", "TIMETZ"] ⊆ suffixedTypes) h
  · rw [of_decide_eq_true ((Bool.and_eq_true ..).mp h).1]
    decide

theorem mem_suffixedTypes_of_unsigned? (h : name.unsigned?.isSome = true) :
    name.standard ∈ suffixedTypes := by
  unfold TypeName.unsigned? at h
  split_ifs at h with hmem
  · exact (by decide : ["BIGINT", "INT", "MEDIUMINT", "SMALLINT", "TINYINT", "DECIMAL", "DOUBLE"] ⊆
      suffixedTypes) (List.contains_iff_mem.mp hmem)
  · exact absurd h Bool.false_ne_true

/-- A type that further words follow takes sizes. -/
theorem takesSizes_of_isSuffix (h : IsSuffix d head suffix) (hne : suffix ≠ []) :
    head.takesSizes = true := by
  have htakes : ∀ name : TypeName, name.standard ∈ suffixedTypes →
      (TypeHead.builtIn name).takesSizes = true := fun ⟨s⟩ hs =>
    (by decide : ∀ s ∈ suffixedTypes, (TypeHead.builtIn ⟨s⟩).takesSizes = true) s hs
  cases h with
  | none => exact absurd rfl hne
  | zone hname _ | localZone hname _ | noZone hname _ =>
    exact htakes _ (mem_suffixedTypes_of_takesZone hname)
  | unsigned hname _ => exact htakes _ (mem_suffixedTypes_of_unsigned? hname)

theorem suffix_eq_nil_of_not_takesSizes (h : IsSuffix d head suffix)
    (htakes : head.takesSizes = false) : suffix = [] := by
  by_contra hne
  exact absurd (takesSizes_of_isSuffix h hne) (by rw [htakes]; exact Bool.false_ne_true)

/-! ### What plain types say -/

@[simp] theorem writtenText_nil : writtenText d [] = "" := rfl

@[simp] theorem writtenText_cons :
    writtenText d (t :: tokens) = t.written d ++ writtenText d tokens := by
  rw [writtenText, List.map_cons, String.join_cons, writtenText]

theorem writtenText_append (tokens rest : List Token) :
    writtenText d (tokens ++ rest) = writtenText d tokens ++ writtenText d rest := by
  rw [writtenText, List.map_append, String.join_append, writtenText, writtenText]

theorem written_of_isSign {s : String} (h : t.isSign s = true) : t.written d = s := by
  obtain ⟨hkind, htext⟩ := kind_of_isSign h
  rw [Token.written, hkind]
  exact htext

theorem written_of_isName (h : t.kind = .word ∨ t.kind = .name) : t.written d = t.upperText := by
  rw [Token.written]
  obtain h | h := h <;> rw [h]

/-- Sizes are written in the signature as they are. -/
theorem map_parameter_of_writesArguments (h : WritesArguments d head tokens sizes) :
    sizes ≠ [] ∧ sizes.map Signature.parameter = sizes := by
  induction h with
  | last _ hkept => exact ⟨List.cons_ne_nil _ _, congrArg (· :: []) hkept⟩
  | more _ hkept _ _ ih =>
    exact ⟨List.cons_ne_nil _ _, by rw [List.map_cons, hkept, ih.2]⟩

/-- Arguments say the sizes, with commas between them. -/
theorem writtenText_of_writesArguments (h : WritesArguments d head tokens sizes) :
    writtenText d tokens = ",".intercalate sizes := by
  induction h with
  | last _ _ => simp
  | @more t comma tokens sizes _ _ hcomma h ih =>
    obtain ⟨hne, -⟩ := map_parameter_of_writesArguments h
    rw [writtenText_cons, writtenText_cons, written_of_isSign hcomma, ih,
      String.intercalate_cons_of_ne_nil hne, String.append_assoc]

/-- The signature of a word or name with sizes is what is written. -/
theorem write_of_writesSizes {brackets : List Token} (base : String)
    (h : WritesSizes d head brackets sizes) :
    Signature.write base sizes = base ++ writtenText d brackets := by
  cases h with
  | none => rw [Signature.write_nil, writtenText_nil, String.append_empty]
  | some _ hopening harguments hclosing =>
    obtain ⟨hne, hsizes⟩ := map_parameter_of_writesArguments harguments
    rw [Signature.write, if_neg (by simpa using hne), hsizes, writtenText_cons, writtenText_append,
      writtenText_cons, writtenText_nil, written_of_isSign hopening, written_of_isSign hclosing,
      writtenText_of_writesArguments harguments, String.append_empty]
    simp only [String.append_assoc]

/-! ### Words and names of types -/

/-- A name between quotes is a built-in type iff what it says is one token that names it. -/
theorem builtIn?_eq_some_iff (hname : t.typeName? d = none) (hkind : t.kind = .name) :
    t.builtIn? d = some name ↔
      (((tokensOf d t.text).getD []).filterMap fun u => some (u.typeName? d)) = [some name] := by
  unfold Token.builtIn?
  rw [hname]
  dsimp only
  rw [if_pos hkind]
  split
  next name' heq => rw [heq, Option.some.injEq, List.cons.injEq, Option.some.injEq, and_iff_left rfl]
  next hne => exact iff_of_false nofun (hne name)

theorem kind_of_builtIn? (h : t.builtIn? d = some name) : t.kind = .word ∨ t.kind = .name := by
  unfold Token.builtIn? at h
  split at h
  next heq => exact .inl (by_contra fun hkind => absurd heq (by simp [Token.typeName?, hkind]))
  next =>
    split_ifs at h with hkind
    exact .inr hkind

theorem kind_of_beginsName (h : t.beginsName d = true) : t.kind = .word ∨ t.kind = .name := by
  obtain hplain | hname := (Bool.or_eq_true ..).mp ((Bool.and_eq_true ..).mp h).2
  · simp only [Token.isPlain, Bool.and_eq_true, decide_eq_true_eq] at hplain
    exact .inl hplain.1.1.1.1
  · exact .inr (of_decide_eq_true ((Bool.and_eq_true ..).mp hname).1)

/-- The parts of a name follow it in upper case. -/
theorem upper_of_writesTail {parts : List String} (h : WritesTail tokens parts) (s : String) :
    upper (parts.foldl (fun s part => s ++ "." ++ part) s) = upper s ++ writtenText d tokens := by
  induction h generalizing s with
  | nil => rw [List.foldl_nil, writtenText_nil, String.append_empty]
  | @cons dot t tokens parts hdot ht _ _ ih =>
    rw [List.foldl_cons, ih, upper_append, upper_append, writtenText_cons, writtenText_cons,
      written_of_isSign hdot, written_of_isName ht, Token.upperText, String.append_assoc,
      String.append_assoc]
    rfl

theorem not_isBlank_of_wordStart {c : Char} (h : (c.isAlpha || decide (c = '_')) = true) :
    isBlank c = false := by
  have hrange : 65 ≤ c.toNat ∧ c.toNat ≤ 122 := by
    obtain halpha | hscore := (Bool.or_eq_true ..).mp h
    · have hcase : (c.isUpper || c.isLower) = true := halpha
      obtain hupper | hlower := (Bool.or_eq_true ..).mp hcase
      · obtain ⟨hlow, hhigh⟩ : 65 ≤ c.val ∧ c.val ≤ 90 := of_decide_eq_true hupper
        have hlow' : 65 ≤ c.toNat := UInt32.le_iff_toNat_le.mp hlow
        have hhigh' : c.toNat ≤ 90 := UInt32.le_iff_toNat_le.mp hhigh
        omega
      · obtain ⟨hlow, hhigh⟩ := (Bool.and_eq_true ..).mp hlower
        have hlow' : 97 ≤ c.toNat := UInt32.le_iff_toNat_le.mp (of_decide_eq_true hlow)
        have hhigh' : c.toNat ≤ 122 := UInt32.le_iff_toNat_le.mp (of_decide_eq_true hhigh)
        omega
    · rw [of_decide_eq_true hscore]
      decide
  obtain ⟨hlow, hhigh⟩ := hrange
  unfold isBlank
  simp only [Bool.or_eq_false_iff, Bool.and_eq_false_iff, decide_eq_false_iff_not, beq_eq_false_iff_ne]
  omega

/-- A word that is spelled is so whatever follows it, and is more than blanks. -/
theorem spelledType?_of_singleton {s : String} (h : spelledType? [t] = some s) :
    (∀ rest, spelledType? (t :: rest) = some s) ∧ isAllBlank t.text = false := by
  unfold spelledType? at h ⊢
  by_cases hlead : ["SET", "DATA", "TYPE"].contains t.upperText = true
  · -- Such a word is passed over, and alone it leaves nothing.
    rw [List.dropWhile_cons, if_pos hlead] at h
    exact absurd h nofun
  · rw [List.dropWhile_cons, if_neg hlead] at h
    refine ⟨fun rest => by rw [List.dropWhile_cons, if_neg hlead]; exact h, ?_⟩
    dsimp only at h
    unfold isAllBlank
    split_ifs at h with hword
    cases htext : t.text.toList with
    | nil =>
      rw [htext] at hword
      exact absurd hword Bool.false_ne_true
    | cons c r =>
      rw [htext] at hword
      obtain ⟨hfirst, -⟩ := (Bool.and_eq_true ..).mp hword
      rw [List.all_cons, not_isBlank_of_wordStart hfirst, Bool.false_and]

theorem not_isAllBlank_of_writesHead (h : WritesHead d head tokens) :
    isAllBlank (writtenText d tokens) = false := by
  -- It is enough to look at the first token, whose text upper-casing makes no more blank.
  have hfirst : ∀ (t : Token) (rest : List Token), t.kind = .word ∨ t.kind = .name →
      isAllBlank t.text = false → isAllBlank (writtenText d (t :: rest)) = false := by
    intro t rest hkind hblank
    have hupper : isAllBlank t.upperText = false := by
      by_contra h
      exact absurd (isAllBlank_of_upper ((Bool.not_eq_false _).mp h)) (by rw [hblank]; decide)
    rw [isAllBlank] at hupper ⊢
    rw [writtenText_cons, written_of_isName hkind, String.toList_append, List.all_append, hupper,
      Bool.false_and]
  cases h with
  | builtIn hname hspelled =>
    exact hfirst _ _ (kind_of_builtIn? hname) (spelledType?_of_singleton hspelled).2
  | named hname _ _ hblank => exact hfirst _ _ (kind_of_beginsName hname) hblank

end ColumnLint.Sql
