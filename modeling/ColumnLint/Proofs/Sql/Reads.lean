import ColumnLint.Sql.Parser

/-!
# What parsers read

`Reads d p rest a left` says that a parser gives `a` on the tokens `rest` and leaves `left`.  Where it
stands among comments has no say in that, so the relation speaks of the tokens only.  It follows a
parser step by step (`Reads.bind`), and what a parser reads is all that it can give
(`Reads.eq_of_run`).
-/

namespace ColumnLint.Sql.Parser

variable {α β : Type} {d : Dialect} {p : Parser α} {f : α → Parser β} {a : α} {b : β}
  {t : Token} {rest mid left : List Token}

/-- A parser gives a result on tokens and leaves others, whatever comments came before. -/
def Reads (d : Dialect) (p : Parser α) (rest : List Token) (a : α) (left : List Token) : Prop :=
  ∀ place : Place, place.rest = rest →
    ∃ place', (p.run d).run place = some (a, place') ∧ place'.rest = left

/-! ### Steps -/

theorem run_bind (p : Parser α) (f : α → Parser β) (place : Place) :
    ((p >>= f).run d).run place =
      ((p.run d).run place).bind fun r => ((f r.1).run d).run r.2 := rfl

/-- A run of two steps is a run of the first and one of the second from where it ends. -/
theorem run_bind_eq_some_iff {place place' : Place} :
    ((p >>= f).run d).run place = some (b, place') ↔
      ∃ a mid, (p.run d).run place = some (a, mid) ∧ ((f a).run d).run mid = some (b, place') := by
  rw [run_bind, Option.bind_eq_some_iff]
  simp only [Prod.exists]

/-- What a parser reads is what its runs give. -/
theorem Reads.eq_of_run (h : Reads d p rest a left) {place place' : Place} {a' : α}
    (hplace : place.rest = rest) (hrun : (p.run d).run place = some (a', place')) :
    a' = a ∧ place'.rest = left := by
  obtain ⟨place'', hrun', hleft⟩ := h place hplace
  obtain ⟨rfl, rfl⟩ := Prod.mk.inj (Option.some.inj (hrun.symm.trans hrun'))
  exact ⟨rfl, hleft⟩

theorem reads_pure (a : α) : Reads d (pure a) rest a rest :=
  fun place hplace => ⟨place, rfl, hplace⟩

theorem Reads.bind (h : Reads d p rest a mid) (hf : Reads d (f a) mid b left) :
    Reads d (p >>= f) rest b left := by
  intro place hplace
  obtain ⟨place₁, hrun₁, hrest₁⟩ := h place hplace
  obtain ⟨place₂, hrun₂, hrest₂⟩ := hf place₁ hrest₁
  exact ⟨place₂, run_bind_eq_some_iff.mpr ⟨a, place₁, hrun₁, hrun₂⟩, hrest₂⟩

theorem reads_read : Reads d read rest d rest :=
  fun place hplace => ⟨place, rfl, hplace⟩

/-- A parser may look at the place, of which only the tokens matter in the end. -/
theorem reads_get_bind {f : Place → Parser β}
    (h : ∀ place : Place, place.rest = rest → Reads d (f place) rest b left) :
    Reads d (get >>= f) rest b left := by
  intro place hplace
  exact h place hplace place hplace

theorem reads_modify {g : Place → Place} (hg : ∀ place, (g place).rest = place.rest) :
    Reads d (modify g) rest ⟨⟩ rest :=
  fun place hplace => ⟨g place, rfl, (hg place).trans hplace⟩

/-! ### Tokens -/

/-- Whether the first token is as asked. -/
def headIs (test : Token → Bool) (rest : List Token) : Bool :=
  (rest.head?.map test).getD false

@[simp] theorem headIs_cons (test : Token → Bool) (t : Token) (rest : List Token) :
    headIs test (t :: rest) = test t := rfl

theorem reads_peek : Reads d peek rest rest.head? rest := by
  intro place hplace
  exact ⟨place, by rw [← hplace]; rfl, hplace⟩

theorem reads_peekSecond : Reads d peekSecond rest (rest.drop 1).head? rest := by
  intro place hplace
  exact ⟨place, by rw [← hplace]; rfl, hplace⟩

theorem reads_nextIs (test : Token → Bool) : Reads d (nextIs test) rest (headIs test rest) rest :=
  reads_peek.bind (reads_pure _)

theorem reads_secondIs (test : Token → Bool) :
    Reads d (secondIs test) rest (headIs test (rest.drop 1)) rest :=
  reads_peekSecond.bind (reads_pure _)

theorem reads_advance : Reads d advance (t :: rest) ⟨⟩ rest := by
  rintro ⟨_, _, _, _⟩ rfl
  exact ⟨_, rfl, rfl⟩

theorem reads_skipIf {test : Token → Bool} (h : test t = true) :
    Reads d (skipIf test) (t :: rest) true rest := by
  refine (reads_nextIs test).bind ?_
  rw [headIs_cons, if_pos h]
  exact reads_advance.bind (reads_pure true)

theorem reads_skipIf_of_not {test : Token → Bool} (h : headIs test rest = false) :
    Reads d (skipIf test) rest false rest := by
  refine (reads_nextIs test).bind ?_
  rw [h, if_neg Bool.false_ne_true]
  exact reads_pure false

theorem reads_sign {s : String} (h : t.isSign s = true) : Reads d (sign s) (t :: rest) true rest :=
  reads_skipIf h

theorem reads_sign_of_not {s : String} (h : headIs (·.isSign s) rest = false) :
    Reads d (sign s) rest false rest :=
  reads_skipIf_of_not h

theorem reads_word_of_not {w : String} (h : headIs (·.isWord w) rest = false) :
    Reads d (word w) rest false rest :=
  reads_skipIf_of_not h

/-! ### Phrases -/

/-- Whether the given words or names come first. -/
def leads (words : List String) (rest : List Token) : Bool :=
  rest.length ≥ words.length && (rest.zip words).all fun (t, w) => t.spells w

theorem reads_advances (words : List String) (h : words.length ≤ rest.length) :
    Reads d (words.forM fun _ => advance) rest ⟨⟩ (rest.drop words.length) := by
  induction words generalizing rest with
  | nil => exact reads_pure _
  | cons w words ih =>
    cases rest with
    | nil => exact absurd h (by simp)
    | cons t rest => exact reads_advance.bind (ih (Nat.le_of_succ_le_succ h))

theorem reads_phrase {words : List String} (h : leads words rest = true) :
    Reads d (phrase words) rest true (rest.drop words.length) := by
  have hlength : words.length ≤ rest.length := of_decide_eq_true ((Bool.and_eq_true ..).mp h).1
  refine reads_get_bind fun place hplace => ?_
  subst hplace
  exact (if_pos h).symm ▸ (reads_advances words hlength).bind (reads_pure true)

theorem reads_phrase_of_not {words : List String} (h : leads words rest = false) :
    Reads d (phrase words) rest false rest := by
  refine reads_get_bind fun place hplace => ?_
  subst hplace
  have hnot : ¬ leads words place.rest = true := by rw [h]; exact Bool.false_ne_true
  exact (if_neg hnot).symm ▸ reads_pure false

/-! ### Comments -/

theorem reads_take (depth : Nat) : Reads d (take depth) rest ⟨⟩ rest := by
  refine reads_modify fun place => ?_
  split <;> rfl

theorem reads_advanceTaking (depth : Nat) : Reads d (advanceTaking depth) (t :: rest) ⟨⟩ rest :=
  reads_advance.bind (reads_take depth)

/-! ### Loops -/

/-- A loop that changes nothing. -/
theorem reads_forIn_idle {σ γ : Type} {s : σ} {body : γ → σ → Parser (ForInStep σ)}
    (h : ∀ x, Reads d (body x s) rest (.yield s) rest) (xs : List γ) :
    Reads d (forIn xs s body) rest s rest := by
  induction xs with
  | nil =>
    rw [List.forIn_nil]
    exact reads_pure s
  | cons x xs ih =>
    rw [List.forIn_cons]
    exact (h x).bind ih

/-- Rounds of a loop, whatever elements they are for. -/
inductive Rounds {σ γ : Type} (d : Dialect) (body : γ → σ → Parser (ForInStep σ)) :
    Nat → σ → List Token → σ → List Token → Prop
  | done {s : σ} {rest : List Token} : Rounds d body 0 s rest s rest
  | step {n : Nat} {s s₁ s' : σ} {rest mid left : List Token}
      (h : ∀ x, Reads d (body x s) rest (.yield s₁) mid) (hrest : Rounds d body n s₁ mid s' left) :
      Rounds d body (n + 1) s rest s' left

/-- A loop goes through its rounds if it has elements for them, and idles through the others. -/
theorem Rounds.reads_forIn {σ γ : Type} {body : γ → σ → Parser (ForInStep σ)} {n : Nat} {s s' : σ}
    (h : Rounds d body n s rest s' left) (hidle : ∀ x, Reads d (body x s') left (.yield s') left)
    {xs : List γ} (hn : n ≤ xs.length) : Reads d (forIn xs s body) rest s' left := by
  induction h generalizing xs with
  | done => exact reads_forIn_idle hidle xs
  | step hx _ ih =>
    cases xs with
    | nil => exact absurd hn (by simp)
    | cons x xs =>
      rw [List.forIn_cons]
      exact (hx x).bind (ih hidle (Nat.le_of_succ_le_succ hn))

end ColumnLint.Sql.Parser
