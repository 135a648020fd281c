import TextWalk.Command.Run

/-!
Sessions: the command line spelled out in the order of its writes. Each finding is printed as soon
as the scan comes to it, and a session that gives up takes nothing back of what it has written. Main
statement: a session leaves what the run of its arguments says, gives up only for a reason that shows
before anything is printed, and never does so once its input is loaded.
-/
namespace TextWalk.Command

structure Streams where
  stdout : String := ""
  stderr : String := ""
deriving DecidableEq, Repr

namespace Streams

def print (text : String) (s : Streams) : Streams := { s with stdout := s.stdout ++ text }

def log (verbosity : Int) (records : List Log.Record) (s : Streams) : Streams :=
  { s with stderr := s.stderr ++ Log.render verbosity records }

theorem print_print (t u : String) (s : Streams) : (s.print t).print u = s.print (t ++ u) := by
  simp [print, String.append_assoc]

theorem log_log (verbosity : Int) (r q : List Log.Record) (s : Streams) :
    (s.log verbosity r).log verbosity q = s.log verbosity (r ++ q) := by
  simp [log, Log.render, String.append_assoc]

theorem print_empty (s : Streams) : s.print (String.join []) = s := by
  simp [print]

theorem log_nil (verbosity : Int) (s : Streams) : s.log verbosity [] = s := by
  simp [log, Log.render]

/-- The two streams do not meet. -/
theorem log_print (verbosity : Int) (r : List Log.Record) (t : String) (s : Streams) :
    (s.print t).log verbosity r = (s.log verbosity r).print t := rfl

end Streams

structure Refusal where
  message : String
  hint : String := ""
deriving DecidableEq, Repr

/-- A session writes as it goes and may give up; what is written stays written. -/
abbrev Session := ExceptT Refusal (StateM Streams)

namespace Session

open Buffer

def print (text : String) : Session Unit := modify (Streams.print text)

def log (verbosity : Int) (record : Log.Record) : Session Unit :=
  modify (Streams.log verbosity [record])

def perform {α : Type} (session : Session α) (s : Streams) : Except Refusal α × Streams :=
  session.run.run s

section Perform

variable {α β : Type} {s s' : Streams} {a : α}

@[simp] theorem perform_pure : perform (pure a) s = (.ok a, s) := rfl

@[simp] theorem perform_print (text : String) : perform (print text) s = (.ok (), s.print text) := rfl

@[simp] theorem perform_log (verbosity : Int) (record : Log.Record) :
    perform (log verbosity record) s = (.ok (), s.log verbosity [record]) := rfl

/-- What follows a step that succeeds starts from the streams it has left. -/
theorem perform_bind_of_ok {x : Session α} (f : α → Session β) (h : perform x s = (.ok a, s')) :
    perform (x >>= f) s = perform (f a) s' := by
  unfold perform at h ⊢
  rw [ExceptT.run_bind, StateT.run_bind, h]
  rfl

end Perform

section Remaining

variable {b found : Buffer}

theorem remaining_next_le (b : Buffer) : b.next.remaining ≤ b.remaining := by
  simp only [remaining, content_next, offset_next]
  omega

theorem remaining_next_lt_of_isOnContent (h : b.isOnContent = true) :
    b.next.remaining < b.remaining := by
  obtain ⟨c, hc⟩ := Option.isSome_iff_exists.mp h
  exact remaining_next_lt hc

theorem of_skipUntil {c : Code} (h : b.skipUntil c = (true, found)) :
    found.isOnContent = true ∧ found.remaining ≤ b.remaining := by
  simp only [skipUntil, Prod.mk.injEq] at h
  obtain ⟨hon, rfl⟩ := h
  exact ⟨hon, remaining_skipWhile_le _ b⟩

theorem of_skipBlanks (h : b.skipBlanks = (true, found)) :
    found.isOnContent = true ∧ found.remaining ≤ b.remaining := by
  simp only [skipBlanks, Prod.mk.injEq] at h
  obtain ⟨hon, rfl⟩ := h
  exact ⟨hon, remaining_skipWhile_le _ b⟩

end Remaining

def find (c : Code) (b : Buffer) (count : Nat) : Session Nat :=
  match _h : b.skipUntil c with
  | (true, found) => do
    print (found.cursor.position ++ "\n")
    find c found.next (count + 1)
  | (false, _) => return count
termination_by b.remaining
decreasing_by
  obtain ⟨hon, hle⟩ := of_skipUntil _h
  exact Nat.lt_of_lt_of_le (remaining_next_lt_of_isOnContent hon) hle

def fields (separators : List Code) (b : Buffer) (count : Nat) : Session Nat :=
  match _h : b.skipBlanks with
  | (true, found) =>
    if found.isOnAny separators then fields separators found.next count
    else do
      print (stretchLine
        { start := found.cursor, codes := (found.readUntilBeforeBlankOr separators).1 })
      fields separators (found.readUntilBeforeBlankOr separators).2 (count + 1)
  | (false, _) => return count
termination_by b.remaining
decreasing_by
  all_goals obtain ⟨hon, hle⟩ := of_skipBlanks _h
  · exact Nat.lt_of_lt_of_le (remaining_next_lt_of_isOnContent hon) hle
  · exact Nat.lt_of_lt_of_le (remaining_readUntilBeforeBlankOr_lt separators hon) hle

def runFrom (quote : Code) (escaped : Bool) (b : Buffer) : Scan.QuotedRun :=
  { start := b.cursor, codes := (b.readUntil quote escaped).1,
    closed := (b.readUntil quote escaped).2.isOnContent }

def warn (verbosity : Int) (run : Scan.QuotedRun) : Session Unit :=
  if run.closed then pure () else log verbosity (unterminated run)

def quoted (verbosity : Int) (quote : Code) (escaped : Bool) (b : Buffer) : Session Unit :=
  match _h : b.skipUntil quote with
  | (true, found) => do
    warn verbosity (runFrom quote escaped found)
    print (stretchLine (runFrom quote escaped found).toStretch)
    quoted verbosity quote escaped (found.readUntil quote escaped).2.next
  | (false, _) => return ()
termination_by b.remaining
decreasing_by
  obtain ⟨hon, hle⟩ := of_skipUntil _h
  have hread := remaining_readUntil_lt quote escaped hon
  have hnext := remaining_next_le (found.readUntil quote escaped).2
  omega

section Loops

variable {s : Streams}

/-- Printing as it goes, the session prints the whole listing of occurrences and counts it. -/
theorem perform_find (c : Code) (b : Buffer) (count : Nat) :
    perform (find c b count) s =
      (.ok (count + (Scan.occurrences c b).length),
        s.print (String.join ((Scan.occurrences c b).map fun place => place.position ++ "\n"))) := by
  fun_induction find c b count generalizing s with
  | case1 b count found h ih =>
    have hlist : Scan.occurrences c b = found.cursor :: Scan.occurrences c found.next := by
      rw [Scan.occurrences, h]
    rw [perform_bind_of_ok _ (perform_print _), ih, Streams.print_print, hlist, List.length_cons,
      List.map_cons, String.join_cons, Nat.add_assoc, Nat.add_comm 1]
  | case2 b count found h =>
    have hlist : Scan.occurrences c b = [] := by rw [Scan.occurrences, h]
    rw [hlist, perform_pure, List.length_nil, List.map_nil, Nat.add_zero, Streams.print_empty]

/-- Likewise for fields. -/
theorem perform_fields (separators : List Code) (b : Buffer) (count : Nat) :
    perform (fields separators b count) s =
      (.ok (count + (Scan.fields separators b).length),
        s.print (String.join ((Scan.fields separators b).map stretchLine))) := by
  fun_induction fields separators b count generalizing s with
  | case1 b count found h hsep ih =>
    have hlist : Scan.fields separators b = Scan.fields separators found.next := by
      rw [Scan.fields, h]
      exact if_pos hsep
    rw [ih, hlist]
  | case2 b count found h hsep ih =>
    have hlist : Scan.fields separators b =
        { start := found.cursor, codes := (found.readUntilBeforeBlankOr separators).1 } ::
          Scan.fields separators (found.readUntilBeforeBlankOr separators).2 := by
      rw [Scan.fields, h]
      exact if_neg hsep
    rw [perform_bind_of_ok _ (perform_print _), ih, Streams.print_print, hlist, List.length_cons,
      List.map_cons, String.join_cons, Nat.add_assoc, Nat.add_comm 1]
  | case3 b count found h =>
    have hlist : Scan.fields separators b = [] := by rw [Scan.fields, h]
    rw [hlist, perform_pure, List.length_nil, List.map_nil, Nat.add_zero, Streams.print_empty]

theorem perform_warn (verbosity : Int) (run : Scan.QuotedRun) :
    perform (warn verbosity run) s =
      (.ok (), s.log verbosity (([run].filter (!·.closed)).map unterminated)) := by
  cases hclosed : run.closed with
  | true => simp [warn, hclosed, Streams.log_nil]
  | false => simp [warn, hclosed]

/-- Likewise for quoted runs, where the warning comes before the line of its run. -/
theorem perform_quoted (verbosity : Int) (quote : Code) (escaped : Bool) (b : Buffer) :
    perform (quoted verbosity quote escaped b) s =
      (.ok (), (s.log verbosity
          (((Scan.quotedRuns quote escaped b).filter (!·.closed)).map unterminated)).print
        (String.join ((Scan.quotedRuns quote escaped b).map fun r => stretchLine r.toStretch))) := by
  fun_induction quoted verbosity quote escaped b generalizing s with
  | case1 b found h ih =>
    have hlist : Scan.quotedRuns quote escaped b =
        runFrom quote escaped found ::
          Scan.quotedRuns quote escaped (found.readUntil quote escaped).2.next := by
      rw [Scan.quotedRuns, h]
      rfl
    rw [perform_bind_of_ok _ (perform_warn _ _), perform_bind_of_ok _ (perform_print _), ih, hlist,
      ← Streams.log_print, Streams.print_print, Streams.log_print, Streams.log_log,
      ← List.map_append, ← List.filter_append, List.singleton_append, List.map_cons,
      String.join_cons]
  | case2 b found h =>
    have hlist : Scan.quotedRuns quote escaped b = [] := by rw [Scan.quotedRuns, h]
    rw [hlist, perform_pure, List.filter_nil, List.map_nil, List.map_nil, Streams.log_nil,
      Streams.print_empty]

end Loops

end Session

def Task.session (verbosity : Int) (b : Buffer) : Task → Session Unit
  | find c => do
    let count ← Session.find (Code.ofChar c) b 0
    Session.log verbosity
      { level := .info
        message := "find done"
        fields := [("char", Utf8.encode [c]), ("count", countValue count)] }
  | fields separators => do
    let count ← Session.fields (separators.map Code.ofChar) b 0
    Session.log verbosity
      { level := .info
        message := "fields done"
        fields := [("count", countValue count)] }
  | quoted q raw => Session.quoted verbosity (Code.ofChar q) (!raw) b

def Job.session (j : Job) (held : Except SourceFault Bytes) : Session Unit :=
  match j.buffer held with
  | .error e => throw { message := e.message }
  | .ok b => do
    Session.log j.settings.verbosity (j.loaded b)
    j.task.session j.settings.verbosity b

def session (args : List Bytes) (held : Source → Except SourceFault Bytes) : Session Unit :=
  match request args with
  | .error e => throw { message := e.message, hint := e.hint }
  | .ok (.page name) => Session.print name.page
  | .ok (.unknownTopic topic) => Session.print (unknownTopicPage topic)
  | .ok (.job j) => j.session (held j.source)

def Session.outcome (session : Session Unit) : Outcome :=
  match session.perform {} with
  | (.ok (), s) => { failed := false, stdout := s.stdout, stderr := s.stderr }
  | (.error r, s) =>
    { failed := true
      stdout := s.stdout
      stderr := s.stderr ++ "Error: " ++ r.message ++ "\n" ++ r.hint }

open Session in
/-- A task never gives up, and it prints and logs what its report holds. -/
theorem Task.perform_session (task : Task) (verbosity : Int) (b : Buffer) (s : Streams) :
    perform (task.session verbosity b) s =
      (.ok (), (s.log verbosity (task.report b).records).print (task.report b).output) := by
  cases task with
  | find c =>
    rw [Task.session, perform_bind_of_ok _ (perform_find _ _ _), perform_log, Streams.log_print,
      Nat.zero_add]
    rfl
  | fields separators =>
    rw [Task.session, perform_bind_of_ok _ (perform_fields _ _ _), perform_log, Streams.log_print,
      Nat.zero_add]
    rfl
  | quoted q raw =>
    rw [Task.session, perform_quoted]
    rfl

/-- A session leaves what the run of its arguments says. -/
theorem outcome_session (args : List Bytes) (held : Source → Except SourceFault Bytes) :
    (session args held).outcome = runWith args held := by
  rw [Session.outcome, session, runWith]
  cases request args with
  | error e => rfl
  | ok r =>
    cases r with
    | page name => rfl
    | unknownTopic topic => rfl
    | job j =>
      simp only [Job.session, Request.run, Job.run]
      cases j.buffer (held j.source) with
      | error e => rfl
      | ok b =>
        rw [Session.perform_bind_of_ok _ (Session.perform_log _ _), Task.perform_session,
          Streams.log_log]
        rfl

section Refused

def Name.arity? : Name → Option Arity
  | find => some (.between 1 2)
  | fields => some (.atMost 1)
  | quoted => some (.between 1 2)
  | _ => none

/-- The reasons for which an argument list is not carried out. -/
inductive Refused (args : List Bytes) (held : Source → Except SourceFault Bytes) : Prop where
  | command {typed : Bytes} (h : resolve args = .error typed)
  | flag {name : Name} {rest : List Bytes} {e : FlagError} (h : resolve args = .ok (name, rest))
    (hread : readArguments name.flags {} rest = .error e)
  | count {name : Name} {rest positional : List Bytes} {s : Settings} {arity : Arity}
    (h : resolve args = .ok (name, rest))
    (hread : readArguments name.flags {} rest = .ok (s, positional)) (hhelp : s.help = false)
    (harity : name.arity? = some arity) (hcount : arity.accepts positional.length = false)
  | character {name : Name} {rest more : List Bytes} {first : Bytes} {s : Settings}
    {e : CharacterError} (h : resolve args = .ok (name, rest))
    (hread : readArguments name.flags {} rest = .ok (s, first :: more)) (hhelp : s.help = false)
    (hname : name = .find ∨ name = .quoted) (hparse : Character.parse first = .error e)
  | source {j : Job} {fault : SourceFault} (h : request args = .ok (.job j))
    (hheld : held j.source = .error fault)

variable {s : Settings} {positional : List Bytes}

theorem characterRequest_eq_error_iff (task : Char → Task) :
    (∃ e, characterRequest s positional task = .error e) ↔
      (Arity.between 1 2).accepts positional.length = false ∨
        ∃ first more e, positional = first :: more ∧ Character.parse first = .error e := by
  cases positional with
  | nil => simp [characterRequest, Arity.accepts]
  | cons first rest =>
    by_cases hcount : 1 < rest.length
    · simp [characterRequest, Arity.accepts, hcount]
    · cases hparse : Character.parse first with
      | error e => simp [characterRequest, hcount, hparse]
      | ok c => simp [characterRequest, Arity.accepts, hcount, hparse]

/-- Once flags are read, only the number of arguments and the character can be wrong. -/
theorem requestOf_eq_error_iff (name : Name) :
    (∃ e, requestOf s positional name = .error e) ↔
      (∃ arity, name.arity? = some arity ∧ arity.accepts positional.length = false) ∨
        (name = .find ∨ name = .quoted) ∧
          ∃ first more e, positional = first :: more ∧ Character.parse first = .error e := by
  cases name with
  | find => simp [requestOf, Name.arity?, characterRequest_eq_error_iff]
  | quoted => simp [requestOf, Name.arity?, characterRequest_eq_error_iff]
  | fields =>
    by_cases hcount : 1 < positional.length
    · simp [requestOf, Name.arity?, Arity.accepts, hcount]
    · simp [requestOf, Name.arity?, Arity.accepts, hcount]
  | root => simp [requestOf, Name.arity?]
  | help => simp [requestOf, Name.arity?]
  | completion => simp [requestOf, Name.arity?]

/-- A job has a buffer exactly if its source can be read. -/
theorem buffer_eq_error_iff (j : Job) (held : Except SourceFault Bytes) :
    (∃ e, j.buffer held = .error e) ↔ ∃ fault, held = .error fault := by
  match held with
  | .ok data => simp [Job.buffer, Source.reading, Buffer.load]
  | .error (.cannotOpen fault) => simp [Job.buffer, Source.reading]
  | .error .isDirectory => simp [Job.buffer, Source.reading, Buffer.load]

/-- A job fails exactly if its content cannot be loaded. -/
theorem failed_run_iff (j : Job) (held : Except SourceFault Bytes) :
    (j.run held).failed = true ↔ ∃ e, j.buffer held = .error e := by
  rw [Job.run]
  cases j.buffer held with
  | error e => simp [failure]
  | ok b => simp

variable {args : List Bytes} {held : Source → Except SourceFault Bytes}

theorem request_of_readArguments {name : Name} {rest : List Bytes}
    (h : resolve args = .ok (name, rest))
    (hread : readArguments name.flags {} rest = .ok (s, positional)) (hhelp : s.help = false) :
    request args = requestOf s positional name := by
  simp only [request, h, hread, hhelp, Bool.false_eq_true, ↓reduceIte]

/-- A run fails by its arguments or by the source they name. -/
theorem failed_runWith_iff :
    (runWith args held).failed = true ↔
      (∃ e, request args = .error e) ∨
        ∃ j fault, request args = .ok (.job j) ∧ held j.source = .error fault := by
  rw [runWith]
  cases request args with
  | error e => simp [failure]
  | ok r =>
    cases r with
    | page name => simp [Request.run, printed]
    | unknownTopic topic => simp [Request.run, printed]
    | job j => simp [Request.run, failed_run_iff, buffer_eq_error_iff]

theorem exists_request_eq_error_of_refused (h : Refused args held) :
    (∃ e, request args = .error e) ∨
      ∃ j fault, request args = .ok (.job j) ∧ held j.source = .error fault := by
  cases h with
  | command h =>
    rw [request, h]
    exact Or.inl ⟨_, rfl⟩
  | flag h hread =>
    simp only [request, h, hread]
    exact Or.inl ⟨_, rfl⟩
  | count h hread hhelp harity hcount =>
    rw [request_of_readArguments h hread hhelp, requestOf_eq_error_iff]
    exact Or.inl (Or.inl ⟨_, harity, hcount⟩)
  | character h hread hhelp hname hparse =>
    rw [request_of_readArguments h hread hhelp, requestOf_eq_error_iff]
    exact Or.inl (Or.inr ⟨hname, _, _, _, rfl, hparse⟩)
  | source h hheld => exact Or.inr ⟨_, _, h, hheld⟩

theorem refused_of_request_eq_error {e : RequestError} (herror : request args = .error e) :
    Refused args held := by
  cases h : resolve args with
  | error typed => exact .command h
  | ok found =>
    obtain ⟨name, rest⟩ := found
    cases hread : readArguments name.flags {} rest with
    | error e => exact .flag h hread
    | ok result =>
      obtain ⟨s, positional⟩ := result
      cases hhelp : s.help with
      | true => simp [request, h, hread, hhelp] at herror
      | false =>
        rw [request_of_readArguments h hread hhelp] at herror
        rcases (requestOf_eq_error_iff name).mp ⟨e, herror⟩ with ⟨arity, harity, hcount⟩ |
          ⟨hname, first, more, e, rfl, hparse⟩
        · exact .count h hread hhelp harity hcount
        · exact .character h hread hhelp hname hparse

/-- A run fails exactly for one of the listed reasons. -/
theorem failed_runWith_iff_refused : (runWith args held).failed = true ↔ Refused args held := by
  rw [failed_runWith_iff]
  constructor
  · rintro (⟨e, herror⟩ | ⟨j, fault, h, hheld⟩)
    · exact refused_of_request_eq_error herror
    · exact .source h hheld
  · exact exists_request_eq_error_of_refused

end Refused

/-- A run that fails has printed nothing. -/
theorem stdout_of_failed {args : List Bytes} {held : Source → Except SourceFault Bytes}
    (h : (runWith args held).failed = true) : (runWith args held).stdout = "" := by
  rw [runWith] at h ⊢
  cases hrequest : request args with
  | error e => rfl
  | ok r =>
    rw [hrequest] at h
    cases r with
    | page name => exact absurd h Bool.false_ne_true
    | unknownTopic topic => exact absurd h Bool.false_ne_true
    | job j =>
      obtain ⟨e, he⟩ := (failed_run_iff j _).mp h
      simp only [Request.run, Job.run, he]
      rfl

/-- A session, which prints while it scans, leaves what the run of its arguments says. It fails
exactly for one of the listed reasons: an unknown command, flags that cannot be read, a wrong number
of arguments, an argument that is no character, or a source that cannot be read. If it fails, nothing
at all stands on the standard output. Once a task has its input loaded, it succeeds and prints its
report. -/
theorem failed_session_prints_nothing (args : List Bytes)
    (held : Source → Except SourceFault Bytes) :
    (session args held).outcome = runWith args held ∧
      ((session args held).outcome.failed = true ↔ Refused args held) ∧
      ((session args held).outcome.failed = true → (session args held).outcome.stdout = "") ∧
      (∀ j b, request args = .ok (.job j) → j.buffer (held j.source) = .ok b →
        (session args held).outcome.failed = false ∧
          (session args held).outcome.stdout = (j.task.report b).output) ∧
      ∀ stdin files, held = Source.held stdin files →
        (session args held).outcome = run args stdin files := by
  have houtcome := outcome_session args held
  refine ⟨houtcome, ?_, ?_, ?_, ?_⟩
  · rw [houtcome]
    exact failed_runWith_iff_refused
  · rw [houtcome]
    exact stdout_of_failed
  · intro j b hrequest hbuffer
    rw [houtcome]
    simp only [runWith, hrequest, Request.run, Job.run, hbuffer]
    exact ⟨trivial, trivial⟩
  · rintro stdin files rfl
    exact houtcome

end TextWalk.Command
