import RestContract.Text.Width

/-!
# Clusters of characters

A cluster is what a terminal shows as one symbol: a character with the marks behind it, and with the
characters that are joined to it. A text is cut between its clusters only.
-/

namespace RestContract.Text

/-- A symbol: its characters and the columns that it takes. -/
structure Cluster where
  text : List Char
  columns : Nat
  deriving Repr, DecidableEq

namespace Cluster

/-- A cluster with more in front of it. -/
def prepend (text : List Char) (columns : Nat) (cluster : Cluster) : Cluster :=
  { text := text ++ cluster.text, columns := columns + cluster.columns }

/-- What a text starts with that belongs to the symbol before it, and the clusters after that.
    `shown` is the character that a mark for colour is for. -/
def behind (shown : Option Char) : List Char → Cluster × List Cluster
  | [] => (⟨[], 0⟩, [])
  | c :: rest =>
    if c = joiner then
      match rest with
      | [] => (⟨[c], 0⟩, [])
      | next :: rest =>
        let (first, others) := behind shown rest
        (first.prepend [c, next] 0, others)
    else if c = colourMark then
      let (first, others) := behind none rest
      (first.prepend [c] (gain shown), others)
    else
      let (first, others) := behind (shownAfter shown c) rest
      if Text.columns c = 0 then (first.prepend [c] 0, others)
      else (⟨[], 0⟩, first.prepend [c] (Text.columns c) :: others)

/-- The clusters of a text. A mark that nothing stands before is a cluster of its own. -/
def ofText : List Char → List Cluster
  | [] => []
  | c :: rest =>
    let (first, others) := behind (shownAfter none c) rest
    first.prepend [c] (Text.columns c) :: others

/-- The text of some clusters. -/
def join (clusters : List Cluster) : List Char := clusters.flatMap Cluster.text

/-- Lines with a cluster in front of the first. -/
def atStart (cluster : Cluster) : List (List Cluster) → List (List Cluster)
  | [] => [[cluster]]
  | line :: others => (cluster :: line) :: others

/-- Clusters in lines of a width, of whose first some columns are used. -/
def linesFrom (width used : Nat) : List Cluster → List (List Cluster)
  | [] => [[]]
  | cluster :: rest =>
    let reached := used + cluster.columns
    if width < reached then [] :: atStart cluster (linesFrom width cluster.columns rest)
    else atStart cluster (linesFrom width reached rest)

/-- The clusters at the start of a text that fit into a width. A space fills the column before one
    that fits only in part. -/
def within (width : Nat) : List Cluster → List Char
  | [] => []
  | cluster :: rest =>
    if cluster.columns ≤ width then cluster.text ++ within (width - cluster.columns) rest
    else List.replicate width ' '

/-! ## Nothing is lost -/

theorem text_prepend (text : List Char) (columns : Nat) (cluster : Cluster) :
    (cluster.prepend text columns).text = text ++ cluster.text := rfl

theorem join_nil : join [] = [] := rfl

theorem join_cons (cluster : Cluster) (clusters : List Cluster) :
    join (cluster :: clusters) = cluster.text ++ join clusters := by simp [join]

theorem join_append (front back : List Cluster) : join (front ++ back) = join front ++ join back :=
  List.flatMap_append

theorem join_behind (shown : Option Char) (text : List Char) :
    (behind shown text).1.text ++ join (behind shown text).2 = text := by
  fun_induction behind shown text <;> simp_all [text_prepend, join_cons, join_nil]

/-- Every character of a text belongs to one of its clusters. -/
theorem join_ofText (text : List Char) : join (ofText text) = text := by
  cases text with
  | nil => rfl
  | cons c rest => simp [ofText, join_cons, text_prepend, join_behind]

theorem flatten_atStart (cluster : Cluster) (lines : List (List Cluster)) :
    (atStart cluster lines).flatten = cluster :: lines.flatten := by
  cases lines <;> simp [atStart]

theorem linesFrom_ne_nil (width used : Nat) (clusters : List Cluster) :
    linesFrom width used clusters ≠ [] := by
  cases clusters with
  | nil => simp [linesFrom]
  | cons cluster rest =>
    simp only [linesFrom]
    split
    · simp
    · cases linesFrom width (used + cluster.columns) rest <;> simp [atStart]

/-- Every cluster of a text stands in one of its lines. -/
theorem flatten_linesFrom (width used : Nat) (clusters : List Cluster) :
    (linesFrom width used clusters).flatten = clusters := by
  induction clusters generalizing used with
  | nil => rfl
  | cons cluster rest ih =>
    simp only [linesFrom]
    split <;> simp [flatten_atStart, ih]

theorem flatten_map_join (lines : List (List Cluster)) :
    (lines.map join).flatten = join lines.flatten := by
  induction lines with
  | nil => rfl
  | cons line others ih => simp [join_append, ih]

end Cluster
end RestContract.Text
