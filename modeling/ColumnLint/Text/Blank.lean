/-!
# Blanks

White space: which characters are blank, trimming, and cutting a text into its
words. The separators U+001C to U+001F and the wide spaces of Unicode count as
blank too, so the class is larger than `Char.isWhitespace`.
-/

namespace ColumnLint.Text

/-- White space, the separators U+001C to U+001F and the line and paragraph separators included. -/
def isBlank (c : Char) : Bool :=
  let n := c.toNat
  (9 ≤ n && n ≤ 13) || (28 ≤ n && n ≤ 32) || n == 0x85 || n == 0xA0 || n == 0x1680 ||
    (0x2000 ≤ n && n ≤ 0x200A) || n == 0x2028 || n == 0x2029 || n == 0x202F || n == 0x205F ||
    n == 0x3000

/-- The characters without the blanks at both ends. -/
def trimChars (cs : List Char) : List Char :=
  ((cs.dropWhile isBlank).reverse.dropWhile isBlank).reverse

/-- The text without the blanks at both ends. -/
def trim (s : String) : String :=
  String.ofList (trimChars s.toList)

/-- Whether the text holds nothing but blanks. -/
def isAllBlank (s : String) : Bool :=
  s.toList.all isBlank

/-- The maximal runs of characters that are no separators, in order. -/
def fieldsOf (isSeparator : Char → Bool) (cs : List Char) : List (List Char) :=
  let cut := cs.foldr
    (fun c (r : List Char × List (List Char)) =>
      if isSeparator c then ([], if r.1.isEmpty then r.2 else r.1 :: r.2) else (c :: r.1, r.2))
    ([], [])
  if cut.1.isEmpty then cut.2 else cut.1 :: cut.2

/-- The pieces of a text between the separators, empty ones included. -/
def piecesOf (separator : Char) : List Char → List (List Char)
  | [] => [[]]
  | c :: r =>
    if c = separator then [] :: piecesOf separator r
    else
      match piecesOf separator r with
      | [] => [[c]]
      | p :: ps => (c :: p) :: ps

/-- Cutting a text gives at least one piece. -/
theorem piecesOf_ne_nil (separator : Char) (cs : List Char) : piecesOf separator cs ≠ [] := by
  induction cs with
  | nil => simp [piecesOf]
  | cons c r ih => simp only [piecesOf]; split <;> (try split) <;> simp

end ColumnLint.Text
