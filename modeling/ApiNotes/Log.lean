/-
What a run reports beside its result.
A log is a list of entries in the order in which they arise: progress, and warnings about things
that were left out or replaced. `Logged` is a computation that may fail and has a log either way,
so what was reported before a failure is not lost.
-/
import ApiNotes.Failure
import ApiNotes.Format

namespace ApiNotes

/-! ## Entries -/

/-- The kinds of declared type that warnings name. -/
inductive SymbolKind where
  | record
  | synonym
  | dictionary
  | enumeration
deriving DecidableEq, Repr

/-- A kind of declared type in words. -/
def SymbolKind.text : SymbolKind → String
  | record => "struct"
  | synonym => "alias"
  | dictionary => "map"
  | enumeration => "enum"

/-- Something that was left out or replaced. -/
inductive Warning where
  | unknownCommand (location : Option Location) (keyword : String)
  | handlerRepeated (api id : String)
  | handlerUnknown (api path handler : String)
  | methodMissing (api handler path : String)
  | operationRepeated (api method path handler : String)
  | responseNotShared (api method path code : String)
  | declarationRepeated (name : String) (new old : SymbolKind)
  | sourceSkipped (path : String)
  | typeNotFound (api name : String)
  | typesNotFound (api : String) (names : List String)
  | noRoutes
deriving DecidableEq, Repr

/-- A warning in words. -/
def Warning.message : Warning → String
  | unknownCommand location keyword =>
    Location.lead location ++ s!"unknown command '{keyword}', skipped"
  | handlerRepeated api id => s!"API '{api}': handler '{id}' described twice; the later block wins"
  | handlerUnknown api path handler =>
    s!"API '{api}': route {path} points at unknown handler '{handler}', skipped"
  | methodMissing api handler path =>
    s!"API '{api}': handler '{handler}' has no method, route {path} skipped"
  | operationRepeated api method path handler =>
    s!"API '{api}': {method} {path} documented twice; '{handler}' wins"
  | responseNotShared api method path code =>
    s!"API '{api}': {method} {path} response {code} has no shared 'code {code}' to reuse"
  | declarationRepeated name new old =>
    s!"Type '{name}' declared more than once; " ++ new.text ++ " replaces earlier " ++ old.text
  | sourceSkipped path => "Skipping unparsable file: " ++ (Failure.unparsable path).message
  | typeNotFound api name => s!"API '{api}': type '{name}' not found, documented as string"
  | typesNotFound api names =>
    s!"API '{api}': " ++ toString names.length ++ " type(s) documented as plain strings: " ++
      ", ".intercalate names
  | noRoutes => "No routes documented in the project"

/-- How far a run has come. -/
inductive Progress where
  | projectPath (path : String)
  | outputFormat (format : Format)
  | outputToTerminal
  | outputDirectory (path : String)
  | sentinel (text : String)
  | started
  | scanning (root : String)
  | found (files : Nat)
  | read (annotations : Nat)
  | extracted (declarations : Nat)
  | wrote (path : String)
  | wroteAll (documents : Nat)
  | completed
  | summary
  | filesScanned (files : Nat)
  | annotationCount (annotations : Nat)
  | declarationCount (declarations : Nat)
  | apiCount (api : String) (paths schemas : Nat)
deriving DecidableEq, Repr

/-- A progress entry in words. -/
def Progress.message : Progress → String
  | projectPath path => s!"Project path: {path}"
  | outputFormat format => "Output format: " ++ format.title
  | outputToTerminal => "Output: stdout"
  | outputDirectory path => s!"Output directory: {path}"
  | sentinel text => s!"Annotation prefix: {text}"
  | started => "Starting OpenAPI document generation..."
  | scanning root => s!"Scanning {root}"
  | found files => s!"Found {files} Rust files"
  | read annotations => s!"Lexed {annotations} annotations"
  | extracted declarations => s!"Extracted {declarations} type declarations"
  | wrote path => s!"Wrote {path}"
  | wroteAll documents => s!"Wrote {documents} document(s)"
  | completed => "Generation complete!"
  | summary => "Summary:"
  | filesScanned files => s!"  - Files scanned: {files}"
  | annotationCount annotations => s!"  - Annotations: {annotations}"
  | declarationCount declarations => s!"  - Type declarations: {declarations}"
  | apiCount api paths schemas =>
    "  - API " ++ (if api.isEmpty then "(default)" else api) ++
      s!": {paths} path(s), {schemas} schema(s)"

/-- An entry of the log. -/
inductive LogEntry where
  | progress (p : Progress)
  | warning (w : Warning)
deriving DecidableEq, Repr

/-- The warnings of a log, in order. -/
def warningsOf (log : List LogEntry) : List Warning :=
  log.filterMap fun
    | .warning w => some w
    | .progress _ => none

/-! ## Computations with a log -/

/-- The outcome of a computation that may fail, and its log. -/
structure Logged (ε α : Type) where
  log : List LogEntry
  result : Except ε α

namespace Logged

variable {ε ε' α β : Type}

/-- A result without entries. -/
protected def pure (a : α) : Logged ε α :=
  ⟨[], .ok a⟩

/-- Goes on from a result; the log of the second part follows that of the first. -/
protected def bind (x : Logged ε α) (f : α → Logged ε β) : Logged ε β :=
  match x.result with
  | .ok a =>
    let y := f a
    ⟨x.log ++ y.log, y.result⟩
  | .error e => ⟨x.log, .error e⟩

instance : Monad (Logged ε) where
  pure := Logged.pure
  bind := Logged.bind

/-- A failure without entries. -/
def fail (e : ε) : Logged ε α :=
  ⟨[], .error e⟩

/-- The outcome of a computation that has no log. -/
def ofExcept (x : Except ε α) : Logged ε α :=
  ⟨[], x⟩

/-- A list of warnings. -/
def warn (warnings : List Warning) : Logged ε Unit :=
  ⟨warnings.map .warning, .ok ()⟩

/-- One progress entry. -/
def tell (p : Progress) : Logged ε Unit :=
  ⟨[.progress p], .ok ()⟩

/-- Renames the causes of failure. -/
def mapError (f : ε → ε') (x : Logged ε α) : Logged ε' α :=
  ⟨x.log, x.result.mapError f⟩

/-- The warnings of the log. -/
def warnings (x : Logged ε α) : List Warning :=
  warningsOf x.log

end Logged

end ApiNotes
