import RestContract.Document.Version
import RestContract.Emission
import RestContract.Formatter
import RestContract.Settings

/-!
# Generation

From a document to the module that is written: the version of the document is checked, the module is
emitted, and the formatter is called if the settings ask for it. Only the call of the formatter
needs the outside.
-/

namespace RestContract.Generation

/-- The module of a document before it is formatted. Its schemas are compiled in some room. -/
def emitIn (room : Nat) (settings : Settings) (document : Value) : Traced String := do
  if settings.checkVersion then
    let _ ← Document.version document
  Emission.moduleText ((← Context.ofDocument document).within room)

/-- The module of a document in the usual room. -/
def emit : Settings → Value → Traced String := emitIn usualRoom

/-- Hands a text to the formatter by `call`. -/
def formatText {m : Type → Type} [Monad m] (call : Formatter.Request → m Formatter.Outcome)
    (command source : String) (timeout : Double) : m (Traced String) :=
  match Formatter.request command source timeout with
  | .error e => return Traced.fail e
  | .ok request => return Formatter.accept command source (← call request)

/-- The module of a document, where the formatter is called by `call`. A run that fails before has
    no text to format. -/
def run {m : Type → Type} [Monad m] (call : Formatter.Request → m Formatter.Outcome)
    (settings : Settings) (document : Traced Value) : m (Traced String) := do
  let emitted := document >>= emit settings
  match emitted.result with
  | .error _ => return emitted
  | .ok source =>
    if settings.format then
      let formatted ← formatText call settings.formatter source settings.timeout
      return emitted >>= fun _ => formatted
    else return emitted

end RestContract.Generation
