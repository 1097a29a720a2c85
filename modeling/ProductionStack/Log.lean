import Mathlib.Data.List.Forall2
import ProductionStack.Lib.Dict
import ProductionStack.Python.Text

/-!
The router's loggers. A logger has two handlers: what is written to standard output passes
a filter that redacts header values in the record's arguments, what is written to standard
error does not. The two streams are different objects.
-/

namespace ProductionStack.Log

open Lib Python

/-- An argument of a record: Starlette headers, a dictionary of header values, or any
other object. -/
inductive Arg (ω : Type) where
  | headers (items : List (String × String))
  | dict (items : List (String × String))
  | other (value : ω)

/-- A single mapping that is not empty stands for itself. -/
inductive Args (ω : Type) where
  | tuple (args : List (Arg ω))
  | mapping (arg : Arg ω)

structure LogRecord (ω : Type) where
  levelno : Int
  msg : String
  args : Args ω

def debug : Int := 10
def info : Int := 20
def warning : Int := 30

def sensitiveHeaders : List String :=
  ["authorization", "x-api-key", "api-key", "x-auth-token", "auth-token", "x-access-token",
    "access-token", "cookie", "set-cookie"]

def authSchemes : List String := ["bearer", "basic", "token", "digest", "oauth", "apikey"]

/-- What stands before the first space, if that is a known scheme. -/
def authScheme (value : String) : Option String :=
  if value.toList.contains ' ' && authSchemes.contains (lower (beforeFirst value ' ')) then
    some (beforeFirst value ' ')
  else none

def redactValue (value : String) : String :=
  match authScheme value with
  | some scheme => scheme ++ " ****"
  | none =>
    if 4 < value.toList.length then String.ofList (value.toList.take 4) ++ "****" else "****"

def isSensitive (item : String × String) : Bool := sensitiveHeaders.contains (lower item.1)

def redactItem (item : String × String) : String × String :=
  if isSensitive item then (item.1, redactValue item.2) else item

variable {ω : Type}

section Filters

def redactArg : Arg ω → Arg ω
  | .headers items =>
    if items.any isSensitive then
      .dict ((items.map redactItem).foldl (fun d item => upsert item.1 item.2 d) [])
    else .headers items
  | arg => arg

def redactArgs : Args ω → Args ω
  | .tuple args => .tuple (args.map redactArg)
  | .mapping arg => .mapping (redactArg arg)

end Filters

inductive Filter where
  | maxLevel (level : Int)
  | tokenRedaction
  deriving DecidableEq

inductive Stream where
  | stdout
  | stderr
  deriving DecidableEq

inductive Formatter where
  | custom
  | json

structure Handler where
  stream : Stream
  level : Int
  formatter : Formatter
  filters : List Filter

/-- A level of 0 is that of the loggers above. -/
structure Logger where
  level : Int
  handlers : List Handler

section Emission

/-- A filter may change the record, which all handlers share. -/
def Filter.filter : Filter → LogRecord ω → Bool × LogRecord ω
  | .maxLevel level, record => (record.levelno ≤ level, record)
  | .tokenRedaction, record => (true, { record with args := redactArgs record.args })

def runFilters : List Filter → LogRecord ω → Bool × LogRecord ω
  | [], record => (true, record)
  | filter :: rest, record =>
    let (passes, record) := filter.filter record
    if passes then runFilters rest record else (false, record)

/-! `render` is what a formatter makes of a record. -/

variable (render : Formatter → LogRecord ω → String)

def callHandlers : List Handler → LogRecord ω → List (Stream × String)
  | [], _ => []
  | handler :: rest, record =>
    if handler.level ≤ record.levelno then
      let (passes, record) := runFilters handler.filters record
      if passes then (handler.stream, render handler.formatter record) :: callHandlers rest record
      else callHandlers rest record
    else callHandlers rest record

def Logger.effectiveLevel (inherited : Int) (logger : Logger) : Int :=
  if logger.level = 0 then inherited else logger.level

/-- What is written for a record. -/
def Logger.log (inherited : Int) (logger : Logger) (record : LogRecord ω) :
    List (Stream × String) :=
  if logger.effectiveLevel inherited ≤ record.levelno then
    callHandlers render logger.handlers record
  else []

end Emission

/-! The module's state. -/

structure Logging where
  logLevel : Int
  logFormat : Formatter
  loggers : String → Option Logger

inductive LogCall where
  | initLogger (name : String) (level : Option Int)
  | setLogLevel (name : String)
  | setLogFormat (name : String)

def levelNamed (name : String) : Int :=
  match lower name with
  | "critical" => 50
  | "error" => 40
  | "warning" => warning
  | "debug" | "trace" => debug
  | _ => info

namespace Logging

def start : Logging := ⟨info, .custom, fun _ => none⟩

def newHandlers (level : Int) (formatter : Formatter) : List Handler :=
  [⟨.stdout, level, formatter, [.maxLevel info, .tokenRedaction]⟩,
    ⟨.stderr, warning, formatter, []⟩]

def step (s : Logging) : LogCall → Logging
  | .initLogger name level =>
    let level := level.getD s.logLevel
    let handlers := ((s.loggers name).map (·.handlers)).getD []
    { s with loggers :=
        Function.update s.loggers name (some ⟨level, handlers ++ newHandlers level s.logFormat⟩) }
  | .setLogLevel name =>
    let level := levelNamed name
    { s with
      logLevel := level
      loggers := fun n => (s.loggers n).map fun logger => ⟨level, logger.handlers.map fun handler =>
        if handler.stream = .stdout then { handler with level } else handler⟩ }
  | .setLogFormat name =>
    let formatter := if lower name = "json" then Formatter.json else .custom
    { s with
      logFormat := formatter
      loggers := fun n => (s.loggers n).map fun logger =>
        { logger with handlers := logger.handlers.map fun handler => { handler with formatter } } }

def run (calls : List LogCall) : Logging := calls.foldl step start

end Logging

/-! Every logger that the module makes. -/

def Handler.Standard (handler : Handler) : Prop :=
  handler.stream = .stdout ∧ handler.filters = [.maxLevel info, .tokenRedaction] ∨
    handler.stream = .stderr ∧ handler.level = warning ∧ handler.filters = []

structure Logger.Made (logger : Logger) : Prop where
  standard : ∀ handler ∈ logger.handlers, handler.Standard
  stderr : ∃ handler ∈ logger.handlers, handler.stream = .stderr

namespace Logging

/-- What changes the level or the formatter of handlers leaves them standard. -/
theorem made_map {logger : Logger} (h : logger.Made) {level : Int} {f : Handler → Handler}
    (hstream : ∀ handler, (f handler).stream = handler.stream)
    (hstandard : ∀ handler, handler.Standard → (f handler).Standard) :
    Logger.Made ⟨level, logger.handlers.map f⟩ := by
  constructor
  · intro handler hmem
    obtain ⟨old, hold, rfl⟩ := List.mem_map.mp hmem
    exact hstandard old (h.standard old hold)
  · obtain ⟨handler, hmem, hstderr⟩ := h.stderr
    exact ⟨f handler, List.mem_map_of_mem hmem, (hstream handler).trans hstderr⟩

theorem made_step {s : Logging} (hs : ∀ name logger, s.loggers name = some logger → logger.Made)
    (call : LogCall) (name : String) (logger : Logger)
    (h : (s.step call).loggers name = some logger) : logger.Made := by
  cases call with
  | initLogger other level =>
    change Function.update s.loggers other _ name = _ at h
    by_cases hname : name = other
    · subst hname
      rw [Function.update_self] at h
      obtain rfl := Option.some.inj h
      refine ⟨fun handler hmem => ?_, _, List.mem_append_right _ (List.mem_cons_of_mem _
        List.mem_cons_self), rfl⟩
      rcases List.mem_append.mp hmem with hold | hnew
      · cases hlogger : s.loggers name with
        | none => simp [hlogger] at hold
        | some logger => exact (hs name logger hlogger).standard handler (by simpa [hlogger] using hold)
      · simp only [newHandlers, List.mem_cons, List.not_mem_nil, or_false] at hnew
        rcases hnew with rfl | rfl
        · exact .inl ⟨rfl, rfl⟩
        · exact .inr ⟨rfl, rfl, rfl⟩
    · rw [Function.update_of_ne hname] at h
      exact hs name logger h
  | setLogLevel level =>
    obtain ⟨old, hold, rfl⟩ := Option.map_eq_some_iff.mp h
    refine made_map (hs name old hold) ?_ ?_
    · intro handler
      split <;> rfl
    · intro handler hstandard
      split
      · next hstdout =>
        rcases hstandard with hstandard | ⟨hstderr, -⟩
        · exact .inl hstandard
        · rw [hstdout] at hstderr
          cases hstderr
      · exact hstandard
  | setLogFormat format =>
    obtain ⟨old, hold, rfl⟩ := Option.map_eq_some_iff.mp h
    exact made_map (hs name old hold) (fun _ => rfl) fun _ hstandard => hstandard

theorem made_run (calls : List LogCall) (name : String) (logger : Logger)
    (h : (run calls).loggers name = some logger) : logger.Made := by
  induction calls using List.reverseRecOn generalizing name logger with
  | nil => cases h
  | append_singleton calls call ih =>
    rw [run, List.foldl_concat] at h
    exact made_step ih call name logger h

end Logging

/-! What the handlers write. -/

section Secrecy

variable {render : Formatter → LogRecord ω → String} {record record' : LogRecord ω}
  {handlers : List Handler}

def LogRecord.redacted (record : LogRecord ω) : LogRecord ω :=
  { record with args := redactArgs record.args }

theorem runFilters_stdout (record : LogRecord ω) :
    runFilters [.maxLevel info, .tokenRedaction] record =
      if record.levelno ≤ info then (true, record.redacted) else (false, record) := by
  simp only [runFilters, Filter.filter, decide_eq_true_eq, if_true]
  rfl

/-- Below the warnings only redacted records are written. -/
theorem callHandlers_low (hhandlers : ∀ h ∈ handlers, h.Standard)
    (hlevel : record.levelno < warning) (hsame : record.redacted = record'.redacted) :
    callHandlers render handlers record = callHandlers render handlers record' := by
  induction handlers generalizing record record' with
  | nil => rfl
  | cons handler rest ih =>
    have hrest : ∀ h ∈ rest, h.Standard := fun h hmem => hhandlers h (List.mem_cons_of_mem _ hmem)
    have hlevel' : record.levelno = record'.levelno := (LogRecord.mk.inj hsame).1
    have hskip := ih hrest hlevel hsame
    rcases hhandlers handler List.mem_cons_self with ⟨-, hfilters⟩ | ⟨-, hwarning, -⟩
    · simp only [callHandlers, hfilters, runFilters_stdout, ← hlevel']
      split
      · split
        · simp only [if_true, hsame]
        · exact hskip
      · exact hskip
    · have hnot : ¬ handler.level ≤ record.levelno := by omega
      simp only [callHandlers, ← hlevel', if_neg hnot]
      exact hskip

/-- From the warnings on the record is written as it is. -/
theorem callHandlers_high (hhandlers : ∀ h ∈ handlers, h.Standard)
    (hlevel : warning ≤ record.levelno) : callHandlers render handlers record =
      (handlers.filter (·.stream = .stderr)).map fun h => (.stderr, render h.formatter record) := by
  induction handlers with
  | nil => rfl
  | cons handler rest ih =>
    have hrest := ih fun h hmem => hhandlers h (List.mem_cons_of_mem _ hmem)
    rcases hhandlers handler List.mem_cons_self with ⟨hstream, hfilters⟩ | ⟨hstream, hwarning, hfilters⟩
    · have hinfo : ¬ record.levelno ≤ info := by
        unfold info warning at *
        omega
      simp only [callHandlers, hfilters, runFilters_stdout, if_neg hinfo, hrest]
      simp [hstream]
    · simp only [callHandlers, hfilters, runFilters, hwarning, if_pos hlevel, if_true, hrest]
      simp [hstream]

/-- The values have the same scheme or, without one, the same first four characters. -/
def Veiled (value value' : String) : Prop :=
  authScheme value = authScheme value' ∧ (authScheme value = none →
    (4 < value.toList.length ↔ 4 < value'.toList.length) ∧
      value.toList.take 4 = value'.toList.take 4)

theorem redactValue_veiled {value value' : String} (h : Veiled value value') :
    redactValue value = redactValue value' := by
  obtain ⟨hscheme, hstart⟩ := h
  unfold redactValue
  rw [← hscheme]
  cases hvalue : authScheme value with
  | some scheme => rfl
  | none =>
    obtain ⟨hlength, htake⟩ := hstart hvalue
    simp only [hlength, htake]

/-- The headers differ in sensitive values only, and these are veiled. -/
def ItemAlike (item item' : String × String) : Prop :=
  item.1 = item'.1 ∧ if isSensitive item then Veiled item.2 item'.2 else item.2 = item'.2

inductive Arg.Alike : Arg ω → Arg ω → Prop where
  | headers {items items' : List (String × String)} (h : List.Forall₂ ItemAlike items items') :
      Alike (.headers items) (.headers items')
  | same (arg : Arg ω) : Alike arg arg

inductive Args.Alike : Args ω → Args ω → Prop where
  | tuple {args args' : List (Arg ω)} (h : List.Forall₂ Arg.Alike args args') :
      Alike (.tuple args) (.tuple args')
  | mapping {arg arg' : Arg ω} (h : arg.Alike arg') : Alike (.mapping arg) (.mapping arg')

/-- Two records that may not be told apart. -/
structure LogRecord.Alike (record record' : LogRecord ω) : Prop where
  levelno : record.levelno = record'.levelno
  msg : record.msg = record'.msg
  args : record.args.Alike record'.args

theorem map_alike {items items' : List (String × String)}
    (h : List.Forall₂ ItemAlike items items') : items.map isSensitive = items'.map isSensitive ∧
      items.map redactItem = items'.map redactItem ∧
      (items.any isSensitive = false → items = items') := by
  induction h with
  | nil => exact ⟨rfl, rfl, fun _ => rfl⟩
  | @cons item item' rest rest' hitem _ ih =>
    obtain ⟨hsensitive, hredacted, hsame⟩ := ih
    obtain ⟨key, value⟩ := item
    obtain ⟨key', value'⟩ := item'
    obtain ⟨rfl, hvalue⟩ := hitem
    have heq : isSensitive (key, value) = isSensitive (key, value') := rfl
    refine ⟨by simp only [List.map_cons, hsensitive, heq], ?_, ?_⟩
    · simp only [List.map_cons, hredacted, redactItem, heq]
      cases hkey : isSensitive (key, value') with
      | true =>
        rw [heq, hkey] at hvalue
        simp only [if_true, redactValue_veiled hvalue]
      | false =>
        rw [heq, hkey] at hvalue
        exact congrArg (fun v => (key, v) :: rest'.map redactItem) hvalue
    · intro hany
      rw [List.any_cons, Bool.or_eq_false_iff] at hany
      rw [hany.1] at hvalue
      rw [hsame hany.2]
      exact congrArg (fun v => (key, v) :: rest') hvalue

theorem redactArg_alike {arg arg' : Arg ω} (h : arg.Alike arg') :
    redactArg arg = redactArg arg' := by
  cases h with
  | same => rfl
  | @headers items items' h =>
    obtain ⟨hsensitive, hredacted, hsame⟩ := map_alike h
    have hany : items.any isSensitive = items'.any isSensitive := by
      simpa [List.any_map] using congrArg (List.any · id) hsensitive
    simp only [redactArg, hredacted, ← hany]
    split
    · rfl
    · next hnone => rw [hsame (Bool.eq_false_iff.mpr hnone)]

theorem redacted_alike (h : record.Alike record') : record.redacted = record'.redacted := by
  obtain ⟨levelno, msg, args⟩ := record
  obtain ⟨levelno', msg', args'⟩ := record'
  obtain ⟨hlevel, hmsg, hargs⟩ := h
  obtain rfl : levelno = levelno' := hlevel
  obtain rfl : msg = msg' := hmsg
  suffices hredacted : redactArgs args = redactArgs args' from
    congrArg (LogRecord.mk levelno msg) hredacted
  cases hargs with
  | mapping harg => exact congrArg Args.mapping (redactArg_alike harg)
  | tuple hargs =>
    refine congrArg Args.tuple ?_
    induction hargs with
    | nil => rfl
    | cons harg _ ih => rw [List.map_cons, List.map_cons, redactArg_alike harg, ih]

end Secrecy

/-- What a logger writes for a record of some level shows of a sensitive header no more than
its scheme or its first four characters, exactly if the level is below the warnings or not
enabled. -/
theorem header_secrecy_iff {ω : Type} (render : Formatter → LogRecord ω → String)
    (inherited : Int) (calls : List LogCall) (name : String) (logger : Logger) (level : Int)
    (hlogger : (Logging.run calls).loggers name = some logger)
    (hshown : ∃ msg, ∀ formatter value value',
      render formatter ⟨level, msg, .mapping (.headers [("authorization", value)])⟩ =
        render formatter ⟨level, msg, .mapping (.headers [("authorization", value')])⟩ →
      value = value') :
    (∀ record record' : LogRecord ω, record.levelno = level → record.Alike record' →
        logger.log render inherited record = logger.log render inherited record') ↔
      level < warning ∨ level < logger.effectiveLevel inherited := by
  have hmade := Logging.made_run calls name logger hlogger
  constructor
  · intro hsecret
    by_contra hlevel
    rw [not_or, not_lt, not_lt] at hlevel
    obtain ⟨msg, hshown⟩ := hshown
    have hveiled : Veiled "Bearer a" "Bearer b" := by
      refine ⟨by decide +kernel, fun hnone => ?_⟩
      exact absurd hnone (by decide +kernel)
    have hitem : ItemAlike ("authorization", "Bearer a") ("authorization", "Bearer b") := by
      refine ⟨rfl, ?_⟩
      rw [if_pos (by decide +kernel)]
      exact hveiled
    have hsame := hsecret ⟨level, msg, .mapping (.headers [("authorization", "Bearer a")])⟩
      ⟨level, msg, .mapping (.headers [("authorization", "Bearer b")])⟩ rfl
      ⟨rfl, rfl, .mapping (.headers (.cons hitem .nil))⟩
    simp only [Logger.log, if_pos hlevel.2] at hsame
    rw [callHandlers_high hmade.standard hlevel.1, callHandlers_high hmade.standard hlevel.1,
      List.map_inj_left] at hsame
    obtain ⟨handler, hmem, hstderr⟩ := hmade.stderr
    have hrender := hsame handler (List.mem_filter.mpr ⟨hmem, decide_eq_true hstderr⟩)
    have hvalue := hshown _ _ _ (Prod.mk.inj hrender).2
    exact absurd hvalue (by decide)
  · rintro hlevel record record' rfl halike
    unfold Logger.log
    rw [← halike.levelno]
    split
    · next henabled =>
      have hlow : record.levelno < warning := hlevel.resolve_right (not_lt.mpr henabled)
      exact callHandlers_low hmade.standard hlow (redacted_alike halike)
    · rfl

/-- A rendering that shows the value of a single header. -/
def showHeader (_ : Formatter) (record : LogRecord Unit) : String :=
  match record.args with
  | .mapping (.headers [(_, value)]) => value
  | _ => ""

theorem header_secrecy_info : ∃ logger,
    (Logging.run [.initLogger "router" none]).loggers "router" = some logger ∧
      ∀ record record', record.levelno = info → record.Alike record' →
        logger.log showHeader warning record = logger.log showHeader warning record' := by
  refine ⟨_, rfl, ?_⟩
  refine (header_secrecy_iff showHeader warning [.initLogger "router" none] "router" _ info rfl
    ⟨"%s", ?_⟩).mpr (.inl (by decide))
  intro formatter value value' hsame
  exact hsame

/-- A token that is logged with a warning is written as it is. -/
theorem token_logged_with_warning : ∃ logger,
    (Logging.run [.initLogger "router" none]).loggers "router" = some logger ∧
      logger.log showHeader warning
        ⟨warning, "%s", .mapping (.headers [("authorization", "Bearer sk-1234567890")])⟩ =
        [(.stderr, "Bearer sk-1234567890")] :=
  ⟨_, rfl, by decide⟩

end ProductionStack.Log
