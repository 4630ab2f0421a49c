import RestContract.Generation
import RestContract.Proofs.Runs

/-!
# Formatting falls back to the text

Whatever becomes of the program that is called, a text comes of it: what the program has written, or
the text as it was. Only failures of the system and of the program are passed over: one of the call
itself, in which a word cannot be handed over or the time is none to wait for, loses the text. And
before the call its command line is taken apart into words, which can fail as well: a command line has
words exactly if its quotes are closed and each backslash takes a character. Otherwise nothing is
called and the run has no text, although it was there.
-/

namespace RestContract

/-! ## Command lines that have words -/

namespace Text

/-- What stands between two marks: a backslash takes a character between double quotes. -/
inductive IsQuoted (mark : Char) : List Char → Prop where
  | nil : IsQuoted mark []
  | plain {c : Char} {rest : List Char} (hc : c ≠ mark) (hb : ¬ (c = '\\' ∧ mark = '"'))
    (h : IsQuoted mark rest) : IsQuoted mark (c :: rest)
  | pair {c : Char} {rest : List Char} (hm : mark = '"') (h : IsQuoted mark rest) :
    IsQuoted mark ('\\' :: c :: rest)

/-- A command line whose quotes are closed, and whose backslashes outside of them each take a
    character. -/
inductive IsClosed : List Char → Prop where
  | nil : IsClosed []
  | plain {c : Char} {rest : List Char} (hc : c ∉ ['\\', '"', '\'']) (h : IsClosed rest) :
    IsClosed (c :: rest)
  | escaped {c : Char} {rest : List Char} (h : IsClosed rest) : IsClosed ('\\' :: c :: rest)
  | quoted {mark : Char} {inside rest : List Char} (hm : mark = '"' ∨ mark = '\'')
    (hi : IsQuoted mark inside) (h : IsClosed rest) : IsClosed (mark :: (inside ++ mark :: rest))

/-- What is left of a closed command line behind a mark that opens a quote. -/
def ClosesQuote (mark : Char) (text : List Char) : Prop :=
  ∃ inside rest, text = inside ++ mark :: rest ∧ IsQuoted mark inside ∧ IsClosed rest

/-- What is left of a closed command line from a state on. -/
def ClosesFrom : ShellState → List Char → Prop
  | .between, text => IsClosed text
  | .word, text => IsClosed text
  | .quoted mark, text => ClosesQuote mark text
  | .escaped, text => ∃ c rest, text = c :: rest ∧ IsClosed rest
  | .quotedEscape, text => ∃ c rest, text = c :: rest ∧ ClosesQuote '"' rest

variable {mark c : Char} {text rest : List Char}

theorem isClosed_cons_iff (hc : c ∉ ['\\', '"', '\'']) : IsClosed (c :: rest) ↔ IsClosed rest := by
  constructor
  · intro h
    cases h with
    | plain _ h => exact h
    | escaped => simp at hc
    | quoted hm => rcases hm with rfl | rfl <;> simp at hc
  · exact .plain hc

theorem isClosed_backslash_iff : IsClosed ('\\' :: rest) ↔ ClosesFrom .escaped rest := by
  constructor
  · intro h
    cases h with
    | plain hc => simp at hc
    | escaped h => exact ⟨_, _, rfl, h⟩
    | quoted hm => simp at hm
  · rintro ⟨c, rest, rfl, h⟩
    exact .escaped h

theorem isClosed_mark_iff (hm : mark = '"' ∨ mark = '\'') :
    IsClosed (mark :: rest) ↔ ClosesQuote mark rest := by
  constructor
  · intro h
    cases h with
    | plain hc => rcases hm with rfl | rfl <;> simp at hc
    | escaped => simp at hm
    | quoted _ hi h => exact ⟨_, _, rfl, hi, h⟩
  · rintro ⟨inside, rest, rfl, hi, h⟩
    exact .quoted hm hi h

theorem closesQuote_mark_iff : ClosesQuote mark (mark :: rest) ↔ IsClosed rest := by
  constructor
  · rintro ⟨inside, after, heq, hi, h⟩
    cases hi with
    | nil =>
      cases heq
      exact h
    | plain hc => exact absurd (List.cons.inj heq).1.symm hc
    | pair hm => exact absurd ((List.cons.inj heq).1.symm.trans hm) (by decide)
  · intro h
    exact ⟨[], rest, rfl, .nil, h⟩

theorem closesQuote_backslash_iff :
    ClosesQuote '"' ('\\' :: rest) ↔ ClosesFrom .quotedEscape rest := by
  constructor
  · rintro ⟨inside, after, heq, hi, h⟩
    cases hi with
    | nil => cases heq
    | plain _ hb =>
      obtain ⟨rfl, _⟩ := List.cons.inj heq
      exact absurd ⟨rfl, rfl⟩ hb
    | pair _ hi =>
      obtain ⟨_, rfl⟩ := List.cons.inj heq
      exact ⟨_, _, rfl, _, _, rfl, hi, h⟩
  · rintro ⟨c, _, rfl, inside, after, rfl, hi, h⟩
    exact ⟨'\\' :: c :: inside, after, rfl, .pair rfl hi, h⟩

theorem closesQuote_cons_iff (hc : c ≠ mark) (hb : ¬ (c = '\\' ∧ mark = '"')) :
    ClosesQuote mark (c :: rest) ↔ ClosesQuote mark rest := by
  constructor
  · rintro ⟨inside, after, heq, hi, h⟩
    cases hi with
    | nil => exact absurd (List.cons.inj heq).1 hc
    | plain _ _ hi =>
      obtain ⟨_, rfl⟩ := List.cons.inj heq
      exact ⟨_, _, rfl, hi, h⟩
    | pair hm => exact absurd ⟨(List.cons.inj heq).1, hm⟩ hb
  · rintro ⟨inside, after, rfl, hi, h⟩
    exact ⟨c :: inside, after, rfl, .plain hc hb hi, h⟩

/-- A character that is no blank leads to the state that tells how the rest has to be closed. -/
theorem isClosed_cons_iff_shellStep :
    IsClosed (c :: rest) ↔ ClosesFrom (shellStep c).1 rest := by
  unfold shellStep
  split
  · next h =>
    subst h
    exact isClosed_backslash_iff
  · next hb =>
    split
    · next hm => exact isClosed_mark_iff hm
    · next hm =>
      rw [not_or] at hm
      have hc : c ∉ ['\\', '"', '\''] := by simp [hb, hm]
      exact isClosed_cons_iff hc

theorem isClosed_blank_iff (hc : isShellBlank c = true) : IsClosed (c :: rest) ↔ IsClosed rest := by
  refine isClosed_cons_iff fun hm => ?_
  simp only [List.mem_cons, List.not_mem_nil, or_false] at hm
  rcases hm with rfl | rfl | rfl <;> simp [isShellBlank] at hc

/-- Reading comes to an end with words exactly if what is left of the command line is closed. -/
theorem isSome_shellWordsFrom_iff (state : ShellState) (word text : List Char) :
    (shellWordsFrom state word text).isSome = true ↔ ClosesFrom state text := by
  -- The characters of the word so far change with the state, but they do not decide.
  induction text generalizing state word with
  | nil =>
    cases state with
    | between | word => simpa [shellWordsFrom, ClosesFrom] using IsClosed.nil
    | quoted | escaped | quotedEscape => simp [shellWordsFrom, ClosesFrom, ClosesQuote]
  | cons c rest ih =>
    cases state with
    | between =>
      rw [ClosesFrom, shellWordsFrom]
      split
      · next hc => rw [ih, ClosesFrom, isClosed_blank_iff hc]
      · rw [ih, isClosed_cons_iff_shellStep]
    | word =>
      rw [ClosesFrom, shellWordsFrom]
      split
      · next hc => rw [Option.isSome_map, ih, ClosesFrom, isClosed_blank_iff hc]
      · rw [ih, isClosed_cons_iff_shellStep]
    | quoted mark =>
      rw [ClosesFrom, shellWordsFrom]
      split
      · next hc =>
        subst hc
        rw [ih, ClosesFrom, closesQuote_mark_iff]
      · next hc =>
        split
        · next hb =>
          obtain ⟨rfl, rfl⟩ := hb
          rw [ih, closesQuote_backslash_iff]
        · next hb => rw [ih, ClosesFrom, closesQuote_cons_iff hc hb]
    | escaped =>
      rw [shellWordsFrom, ih]
      simp [ClosesFrom]
    | quotedEscape =>
      rw [shellWordsFrom, ih]
      simp [ClosesFrom]

theorem isSome_shellWords?_iff {line : String} :
    (shellWords? line).isSome = true ↔ IsClosed line.toList := by
  rw [shellWords?, Option.isSome_map, isSome_shellWordsFrom_iff, ClosesFrom]

end Text

/-! ## The text after a call -/

namespace Formatter

/-- What comes of a call of a formatter: what the program has written, unless that is blank or there
    is nothing. A failure of the call itself is one of the run. -/
def settled (source : String) : Outcome → Except Error String
  | .written text => .ok (if Text.isBlankText text then source else text)
  | .failed _ (.fault f) => .error (.fault f)
  | .failed _ _ => .ok source

/-- An outcome is one of the program: it has written something, or was not started, or has ended
    badly or not in time. -/
def Outcome.IsOfProgram (outcome : Outcome) : Prop := ∀ reason f, outcome ≠ .failed reason (.fault f)

theorem exists_settled_iff {source : String} {outcome : Outcome} :
    (∃ text, settled source outcome = .ok text) ↔ outcome.IsOfProgram := by
  cases outcome with
  | written text => simp [settled, Outcome.IsOfProgram]
  | failed reason failure => cases failure <;> simp [settled, Outcome.IsOfProgram]

theorem result_accept (command source : String) (outcome : Outcome) :
    (accept command source outcome).result = settled source outcome := by
  cases outcome with
  | failed reason failure => cases failure <;> rfl
  | written text =>
    simp only [accept, settled]
    split <;> rfl

variable {command : String} (source : String) (timeout : Double)

theorem exists_request (h : Text.IsClosed command.toList) :
    ∃ words, Text.shellWords? command = some words ∧
      request command source timeout =
        .ok { argv := words ++ inputWords, input := source, timeout } := by
  obtain ⟨words, hw⟩ := Option.isSome_iff_exists.1 (Text.isSome_shellWords?_iff.2 h)
  refine ⟨words, hw, ?_⟩
  rw [request, hw]

theorem request_of_not_isClosed (h : ¬ Text.IsClosed command.toList) :
    request command source timeout = .error (.fault .badText) := by
  rw [← Text.isSome_shellWords?_iff, Option.not_isSome_iff_eq_none] at h
  rw [request, h]

end Formatter

/-! ## Runs with a formatter -/

namespace Generation

open Formatter

variable {m : Type → Type} [Monad m]

/-- A run that hands a text over: if the command line is closed, its words are called with the text,
    and the run settles for what comes of the call. Otherwise it fails, and nothing is called. -/
structure HandsOver (call : Request → m Outcome) (command source : String) (timeout : Double)
    (run : m (Traced String)) : Prop where
  called : Text.IsClosed command.toList → ∃ words, Text.shellWords? command = some words ∧
    Traced.result <$> run =
      settled source <$> call { argv := words ++ inputWords, input := source, timeout }
  refused : ¬ Text.IsClosed command.toList →
    Traced.result <$> run = pure (.error (.fault .badText))

variable [LawfulMonad m] {call : Request → m Outcome} {command source : String} {timeout : Double}

theorem handsOver_formatText :
    HandsOver call command source timeout (formatText call command source timeout) := by
  constructor
  · intro h
    obtain ⟨words, hw, hr⟩ := exists_request source timeout h
    refine ⟨words, hw, ?_⟩
    simp only [formatText, hr, bind_pure_comp, Functor.map_map, result_accept]
  · intro h
    simp only [formatText, request_of_not_isClosed source timeout h, map_pure, Traced.result_fail]

/-- Notes that a run has left before do not matter. -/
theorem HandsOver.after {run : m (Traced String)} {before : Traced String} {text : String}
    (h : HandsOver call command source timeout run) (hb : before.result = .ok text) :
    HandsOver call command source timeout ((fun after => before >>= fun _ => after) <$> run) := by
  have hresult : Traced.result <$> ((fun after => before >>= fun _ => after) <$> run) =
      Traced.result <$> run := by
    simp only [Functor.map_map, Traced.result_bind, hb, ok_bind]
  exact ⟨fun hc => hresult ▸ h.called hc, fun hc => hresult ▸ h.refused hc⟩

/-- Whatever a formatter does, if its command line can be taken apart, the run has a text: the one that
    the formatter has written if it is not blank, and otherwise the one it was. Only a command line
    that cannot be taken apart and a call that itself goes wrong lose the text. This holds of a text
    that is handed over and of the module of a document. -/
theorem text_after_call {m : Type → Type} [Monad m] [LawfulMonad m]
    (call : Request → m Outcome) (source : String) :
    (∀ command timeout,
      HandsOver call command source timeout (formatText call command source timeout)) ∧
    (∀ (settings : Settings) (document : Traced Value), settings.format = true →
      (document >>= emit settings).result = .ok source →
      HandsOver call settings.formatter source settings.timeout (run call settings document)) ∧
    ∀ outcome, (∃ text, settled source outcome = .ok text) ↔ outcome.IsOfProgram := by
  refine ⟨fun _ _ => handsOver_formatText, fun settings document hf hs => ?_,
    fun _ => exists_settled_iff⟩
  have hrun : run call settings document =
      (fun after => (document >>= emit settings) >>= fun _ => after) <$>
        formatText call settings.formatter source settings.timeout := by
    unfold run
    simp only [hs, hf, if_true, bind_pure_comp]
  exact hrun ▸ handsOver_formatText.after hs

/-- A document without paths, and the usual settings for a document of any version. -/
def emptyDocument : Value := .object [("openapi", .text "3.0.3"), ("paths", .object [])]

def anyVersion : Settings := { Settings.default with checkVersion := false }

/-- A formatter that is too slow leaves a text as it was, and so does one that writes a line break
    only; an exit code does not lose a text. -/
theorem text_after_call_timeout :
    (formatText (m := Id) (fun _ => .failed "timeout" .timedOut) "npx 'prettier'" "let a\n"
      (.ofInt 30)).result = .ok "let a\n" ∧
    (∃ source, (emit anyVersion emptyDocument).result = .ok source ∧
      (run (m := Id) (fun _ => .written "\n") anyVersion (pure emptyDocument)).result =
        .ok source) ∧
    ∃ text, settled "let a\n" (.failed "exit status 2" .badExit) = .ok text := by
  have hclosed : Text.IsClosed "npx 'prettier'".toList ∧
      Text.IsClosed anyVersion.formatter.toList :=
    ⟨Text.isSome_shellWords?_iff.1 rfl, Text.isSome_shellWords?_iff.1 rfl⟩
  have hemitted : ∃ source, (emit anyVersion emptyDocument).result = .ok source := ⟨_, rfl⟩
  obtain ⟨source, hs⟩ := hemitted
  have hpure : (pure emptyDocument >>= emit anyVersion).result = .ok source := by
    rw [pure_bind, hs]
  obtain ⟨htext, _, hsettled⟩ := text_after_call (m := Id) (fun _ => .failed "timeout" .timedOut)
    "let a\n"
  obtain ⟨_, _, hslow⟩ := (htext "npx 'prettier'" (.ofInt 30)).called hclosed.1
  obtain ⟨_, hdocument, _⟩ := text_after_call (m := Id) (fun _ => .written "\n") source
  obtain ⟨_, _, hblank⟩ := (hdocument anyVersion (pure emptyDocument) rfl hpure).called hclosed.2
  have hexit : (Outcome.failed "exit status 2" .badExit).IsOfProgram := by
    simp [Outcome.IsOfProgram]
  exact ⟨hslow, ⟨source, hs, hblank⟩, (hsettled _).2 hexit⟩

/-- A quote that is not closed loses the text, whatever the formatter would have done. -/
theorem exists_text_lost :
    ∃ command source, ∀ timeout outcome,
      (formatText (m := Id) (fun _ => outcome) command source timeout).result =
        .error (.fault .badText) :=
  ⟨"prettier '", "const a = 1\n", fun _ _ => rfl⟩

end Generation

end RestContract
