import RestContract.Proofs.PrintedText

/-!
# Normal forms of expressions

A chain of calls can be put together in several ways: all calls at once, or some of them behind a
chain that is there already. The normal form of an expression has every chain in one piece. It is
printed like the expression itself.
-/

namespace RestContract.Expr

mutual
/-- The expression with all chains as one: no chain stands at the start of another one, and none is
    without calls. -/
def normal : Expr → Expr
  | .identifier name => .identifier name
  | .literal l => .literal l
  | .regex source => .regex source
  | .array es => .array (normalAll es)
  | .object properties => .object (normalProperties properties)
  | .chained base calls => chain (normal base) (normalCalls calls)

def normalAll : List Expr → List Expr
  | [] => []
  | e :: rest => normal e :: normalAll rest

def normalProperties : List Property → List Property
  | [] => []
  | p :: rest => normalProperty p :: normalProperties rest

def normalProperty : Property → Property
  | .shorthand name => .shorthand name
  | .valued key e => .valued key (normal e)

def normalCalls : List Call → List Call
  | [] => []
  | call :: rest => normalCall call :: normalCalls rest

def normalCall : Call → Call
  | .call method args => .call method (normalAll args)
end

theorem normalAll_eq_map (es : List Expr) : normalAll es = es.map normal := by
  induction es with
  | nil => rfl
  | cons e rest ih => rw [normalAll, ih, List.map_cons]

theorem normalProperties_eq_map (properties : List Property) :
    normalProperties properties = properties.map normalProperty := by
  induction properties with
  | nil => rfl
  | cons p rest ih => rw [normalProperties, ih, List.map_cons]

theorem normalCalls_eq_map (calls : List Call) : normalCalls calls = calls.map normalCall := by
  induction calls with
  | nil => rfl
  | cons call rest ih => rw [normalCalls, ih, List.map_cons]

/-- All chains of an expression have calls, and none starts with another chain. -/
inductive IsNormal : Expr → Prop where
  | identifier {name : String} : IsNormal (.identifier name)
  | literal {l : Literal} : IsNormal (.literal l)
  | regex {source : String} : IsNormal (.regex source)
  | array {es : List Expr} (h : ∀ e ∈ es, IsNormal e) : IsNormal (.array es)
  | object {properties : List Property} (h : ∀ key e, .valued key e ∈ properties → IsNormal e) :
    IsNormal (.object properties)
  | chained {base : Expr} {calls : List Call} (hb : IsNormal base)
    (hn : ∀ inner earlier, base ≠ .chained inner earlier) (hc : calls ≠ [])
    (ha : ∀ method args, .call method args ∈ calls → ∀ e ∈ args, IsNormal e) :
    IsNormal (.chained base calls)

theorem isNormal_chain {base : Expr} {calls : List Call} (hb : IsNormal base)
    (ha : ∀ method args, .call method args ∈ calls → ∀ e ∈ args, IsNormal e) :
    IsNormal (chain base calls) := by
  unfold chain
  split
  · exact hb
  · next inner earlier hc =>
    cases hb with
    | chained hb hn hearliest hearlier =>
      refine .chained hb hn (by simp [hearliest]) fun method args hm => ?_
      rcases List.mem_append.1 hm with hm | hm
      · exact hearlier method args hm
      · exact ha method args hm
  · next hc hn => exact .chained hb hn hc ha

mutual
theorem isNormal_normal (e : Expr) : IsNormal (normal e) := by
  cases e with
  | identifier | literal | regex => constructor
  | array es => exact .array (isNormal_normalAll es)
  | object properties => exact .object (isNormal_normalProperties properties)
  | chained base calls => exact isNormal_chain (isNormal_normal base) (isNormal_normalCalls calls)

theorem isNormal_normalAll (es : List Expr) : ∀ e ∈ normalAll es, IsNormal e := by
  cases es with
  | nil => simp [normalAll]
  | cons first rest =>
    exact List.forall_mem_cons.2 ⟨isNormal_normal first, isNormal_normalAll rest⟩

theorem isNormal_normalProperties (properties : List Property) :
    ∀ key e, .valued key e ∈ normalProperties properties → IsNormal e := by
  intro key e h
  cases properties with
  | nil => cases h
  | cons p rest =>
    cases p with
    | shorthand name =>
      rcases List.mem_cons.1 h with heq | h
      · cases heq
      · exact isNormal_normalProperties rest key e h
    | valued own value =>
      rcases List.mem_cons.1 h with heq | h
      · cases heq
        exact isNormal_normal value
      · exact isNormal_normalProperties rest key e h

theorem isNormal_normalCalls (calls : List Call) :
    ∀ method args, .call method args ∈ normalCalls calls → ∀ e ∈ args, IsNormal e := by
  intro method args h
  cases calls with
  | nil => cases h
  | cons call rest =>
    obtain ⟨name, own⟩ := call
    rcases List.mem_cons.1 h with heq | h
    · cases heq
      exact isNormal_normalAll own
    · exact isNormal_normalCalls rest method args h
end

/-! ## The text of a normal form -/

theorem chars_chain (base : Expr) (calls : List Call) :
    chars (chain base calls) = chars base ++ calls.flatMap Call.chars := by
  unfold chain
  split
  · simp
  · simp
  · simp

theorem checkCalls_append (calls others : List Call) :
    checkCalls (calls ++ others) = (do checkCalls calls; checkCalls others) := by
  induction calls with
  | nil => rfl
  | cons call rest ih =>
    obtain ⟨method, args⟩ := call
    rw [List.cons_append, checkCalls, ih, checkCalls]
    cases checkTexts args <;> rfl

theorem checkText_chain (base : Expr) (calls : List Call) :
    checkText (chain base calls) = (do checkText base; checkCalls calls) := by
  unfold chain
  split
  · cases h : checkText base <;> rfl
  · next inner earlier _ =>
    rw [checkText, checkText, checkCalls_append]
    cases checkText inner <;> rfl
  · rfl

mutual
/-- The normal form has the text of the expression, and has none where the expression has none. -/
theorem text_normal (e : Expr) : checkText (normal e) = checkText e ∧ chars (normal e) = chars e := by
  cases e with
  | identifier | literal | regex => exact ⟨rfl, rfl⟩
  | array es =>
    obtain ⟨hc, ht⟩ := text_normalAll es
    exact ⟨hc, by rw [normal, chars_array, chars_array, ht]⟩
  | object properties =>
    obtain ⟨hc, ht⟩ := text_normalProperties properties
    refine ⟨hc, ?_⟩
    cases properties with
    | nil => rfl
    | cons p rest =>
      rw [normal, chars_object_of_ne_nil (by simp [normalProperties]),
        chars_object_of_ne_nil (by simp), ht]
  | chained base calls =>
    obtain ⟨hb, htb⟩ := text_normal base
    obtain ⟨hc, htc⟩ := text_normalCalls calls
    exact ⟨by rw [normal, checkText_chain, hb, hc, checkText],
      by rw [normal, chars_chain, htb, htc, chars_chained]⟩

theorem text_normalAll (es : List Expr) :
    checkTexts (normalAll es) = checkTexts es ∧ (normalAll es).map chars = es.map chars := by
  cases es with
  | nil => exact ⟨rfl, rfl⟩
  | cons first rest =>
    obtain ⟨hc, ht⟩ := text_normal first
    obtain ⟨hrest, htrest⟩ := text_normalAll rest
    exact ⟨by rw [normalAll, checkTexts, checkTexts, hc, hrest],
      by rw [normalAll, List.map_cons, List.map_cons, ht, htrest]⟩

theorem text_normalProperties (properties : List Property) :
    checkProperties (normalProperties properties) = checkProperties properties ∧
      (normalProperties properties).map Property.chars = properties.map Property.chars := by
  cases properties with
  | nil => exact ⟨rfl, rfl⟩
  | cons p rest =>
    obtain ⟨hrest, htrest⟩ := text_normalProperties rest
    cases p with
    | shorthand name =>
      exact ⟨hrest, by rw [normalProperties, List.map_cons, List.map_cons, htrest, normalProperty]⟩
    | valued key e =>
      obtain ⟨hc, ht⟩ := text_normal e
      constructor
      · rw [normalProperties, normalProperty, checkProperties, checkProperties, hc, hrest]
      · rw [normalProperties, List.map_cons, List.map_cons, htrest, normalProperty, Property.chars,
          Property.chars, ht]

theorem text_normalCalls (calls : List Call) :
    checkCalls (normalCalls calls) = checkCalls calls ∧
      (normalCalls calls).flatMap Call.chars = calls.flatMap Call.chars := by
  cases calls with
  | nil => exact ⟨rfl, rfl⟩
  | cons call rest =>
    obtain ⟨method, args⟩ := call
    obtain ⟨hargs, htargs⟩ := text_normalAll args
    obtain ⟨hrest, htrest⟩ := text_normalCalls rest
    constructor
    · rw [normalCalls, normalCall, checkCalls, checkCalls, hargs, hrest]
    · rw [normalCalls, List.flatMap_cons, List.flatMap_cons, htrest, normalCall, Call.chars,
        Call.chars, htargs]
end

theorem render_normal (e : Expr) : (normal e).render = e.render := by
  obtain ⟨hc, ht⟩ := text_normal e
  rw [render, render, hc, String.toList_injective ht]

end RestContract.Expr
