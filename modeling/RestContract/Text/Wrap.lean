import RestContract.Text.Cluster

/-!
# Lines of a width

A line that is too wide goes on in further lines. It is broken before a word, and within one only if
the word does not fit into a line of its own. The blanks behind a word stay with it and may stand
out, until the line is cut to the width. Main statements: breaking a line loses nothing of it.
-/

namespace RestContract.Text

/-- The pieces of a line, of which each but the first starts with the first character of a word. -/
def piecesAtWords : List Char → List (List Char)
  | [] => []
  | c :: rest =>
    match piecesAtWords rest with
    | (d :: piece) :: others =>
      if isBlank c && !isBlank d then [c] :: (d :: piece) :: others
      else (c :: d :: piece) :: others
    | others => [c] :: others

/-- The words of a line, each with the blanks behind it; the first has the blanks before it as
    well. -/
def words (line : List Char) : List (List Char) :=
  match piecesAtWords line with
  | first :: second :: others =>
    if first.all isBlank then (first ++ second) :: others else first :: second :: others
  | pieces => pieces

/-- A text without the blanks at its end. -/
def trimEnd (text : List Char) : List Char := (text.reverse.dropWhile isBlank).reverse

/-- Lines with a text in front of the first. -/
def onFirst (text : List Char) : List (List Char) → List (List Char)
  | [] => [text]
  | line :: others => (text ++ line) :: others

/-- The pieces of a word that fit into lines of a width. -/
def pieces (width : Nat) (word : List Char) : List (List Char) :=
  if width < columnsOf (trimEnd word) then
    (Cluster.linesFrom width 0 (Cluster.ofText word)).map Cluster.join
  else [word]

/-- The lines of a width that words are broken into. The first line is what goes on one of which
    some columns are used. -/
def fill (width used : Nat) : List (List Char) → List (List Char)
  | [] => [[]]
  | word :: rest =>
    if used + columnsOf (trimEnd word) ≤ width then
      onFirst word (fill width (used + columnsOf word) rest)
    else
      let pieces := pieces width word
      let last := pieces.getLast?.getD []
      [] :: pieces.dropLast ++ onFirst last (fill width (columnsOf last) rest)

/-- The lines of a width that a line is broken into, before they are cut to the width. -/
def broken (width : Nat) (line : List Char) : List (List Char) :=
  match fill width 0 (words line) with
  | [] :: line :: others => line :: others
  | lines => lines

/-- A line cut to a width: of the blanks at its end it keeps no more than there are places. -/
def fit (width : Nat) (line : List Char) : List Char :=
  let blanks := (line.reverse.takeWhile isBlank).length
  let kept := line.take (line.length - min blanks (line.length - width))
  if width < columnsOf kept then Cluster.within width (Cluster.ofText kept) else kept

/-- The lines of a width that a line is broken into. -/
def wrap (width : Nat) (line : List Char) : List (List Char) := (broken width line).map (fit width)

/-! ## Nothing is lost -/

theorem flatten_piecesAtWords (line : List Char) : (piecesAtWords line).flatten = line := by
  induction line with
  | nil => rfl
  | cons c rest ih =>
    simp only [piecesAtWords]
    split
    next h =>
      rw [h] at ih
      split <;> simpa using ih
    next => simpa using ih

theorem flatten_words (line : List Char) : (words line).flatten = line := by
  have h := flatten_piecesAtWords line
  unfold words
  split
  next hs =>
    rw [hs] at h
    split <;> simpa using h
  next => exact h

theorem flatten_onFirst (text : List Char) (lines : List (List Char)) :
    (onFirst text lines).flatten = text ++ lines.flatten := by cases lines <;> simp [onFirst]

theorem pieces_ne_nil (width : Nat) (word : List Char) : pieces width word ≠ [] := by
  unfold pieces
  split <;> simp [Cluster.linesFrom_ne_nil]

theorem flatten_pieces (width : Nat) (word : List Char) : (pieces width word).flatten = word := by
  unfold pieces
  split
  · rw [Cluster.flatten_map_join, Cluster.flatten_linesFrom, Cluster.join_ofText]
  · simp

theorem flatten_fill (width used : Nat) (words : List (List Char)) :
    (fill width used words).flatten = words.flatten := by
  induction words generalizing used with
  | nil => rfl
  | cons word rest ih =>
    simp only [fill]
    split
    · rw [flatten_onFirst, ih, List.flatten_cons]
    · have h := pieces_ne_nil width word
      rw [List.getLast?_eq_some_getLast h, Option.getD_some, List.cons_append, List.flatten_cons,
        List.nil_append, List.flatten_append, flatten_onFirst, ih, List.flatten_cons,
        ← List.append_assoc]
      congr 1
      conv => rhs; rw [← flatten_pieces width word, ← List.dropLast_concat_getLast h]
      simp

/-- A line is broken without a loss. -/
theorem flatten_broken (width : Nat) (line : List Char) : (broken width line).flatten = line := by
  have h := (flatten_fill width 0 (words line)).trans (flatten_words line)
  unfold broken
  split
  next hs => simpa [hs] using h
  next => exact h

end RestContract.Text
