import Mathlib.Data.List.Forall2
import TextWalk.Proofs.Session

namespace TextWalk.Command

def Parallel {ε α : Type} (R : α → α → Prop) (x y : Except ε α) : Prop :=
  (∃ e, x = .error e ∧ y = .error e) ∨ ∃ a b, x = .ok a ∧ y = .ok b ∧ R a b

section Parallel

variable {ε α : Type} {R : α → α → Prop}

theorem Parallel.error (e : ε) : Parallel R (.error e) (.error e) := Or.inl ⟨e, rfl, rfl⟩

theorem Parallel.ok {a b : α} (h : R a b) : Parallel R (.ok a : Except ε α) (.ok b) :=
  Or.inr ⟨a, b, rfl, rfl, h⟩

/-- To go on from results in step, it is enough to go on from one failure or from related values. -/
@[elab_as_elim]
theorem Parallel.elim {x y : Except ε α} {motive : Except ε α → Except ε α → Prop}
    (h : Parallel R x y) (error : ∀ e, motive (.error e) (.error e))
    (ok : ∀ a b, R a b → motive (.ok a) (.ok b)) : motive x y := by
  rcases h with ⟨e, rfl, rfl⟩ | ⟨a, b, rfl, rfl, hab⟩
  · exact error e
  · exact ok a b hab

end Parallel

def Settings.Alike (s t : Settings) : Prop := ∃ n, t = { s with verbosity := n }

section Verbosity

variable {s t : Settings} {known : List Flag}

/-- Setting a flag fails alike whatever the verbosity is. -/
theorem parallel_set (h : s.Alike t) (f : Flag) (value : Bytes) :
    Parallel Settings.Alike (s.set f value) (t.set f value) := by
  obtain ⟨n, rfl⟩ := h
  have htruth (update : Settings → Bool → Settings)
      (hupdate : ∀ v, update { s with verbosity := n } v = { update s v with verbosity := n }) :
      Parallel Settings.Alike (Settings.setTruth value (update s))
        (Settings.setTruth value (update { s with verbosity := n })) := by
    rw [Settings.setTruth, Settings.setTruth]
    cases boolean? value with
    | none => exact .error _
    | some v => exact .ok ⟨n, hupdate v⟩
  cases f with
  | contentType => exact .ok ⟨n, rfl⟩
  | separators => exact .ok ⟨n, rfl⟩
  | normalize => exact htruth (fun s v => { s with normalize := v }) fun v => rfl
  | help => exact htruth (fun s v => { s with help := v }) fun v => rfl
  | raw => exact htruth (fun s v => { s with raw := v }) fun v => rfl
  | verbose =>
    simp only [Settings.set]
    split
    · exact .ok ⟨n + 1, rfl⟩
    · cases integer value with
      | error e => exact .error e
      | ok m => exact .ok ⟨m, rfl⟩

theorem parallel_setFlag (h : s.Alike t) (f : Flag) (value : Bytes) :
    Parallel Settings.Alike (setFlag s f value) (setFlag t f value) := by
  simp only [setFlag]
  exact Parallel.elim (parallel_set h f value) (fun e => .error _) fun s' t' h' => .ok h'

/-- So does reading a group of short flags. -/
theorem parallel_readGroup (h : s.Alike t) (group : Bytes) :
    Parallel Settings.Alike (readGroup known s group) (readGroup known t group) := by
  induction group generalizing s t with
  | nil => exact .ok h
  | cons letter rest ih =>
    simp only [readGroup]
    split
    · exact .ok h
    · split
      · exact .error _
      · rename_i f _
        split
        · exact parallel_setFlag h _ _
        · exact Parallel.elim (parallel_setFlag h f (f.implied?.getD [])) .error
            fun s' t' h' => ih h'

/-- Reading arguments never looks at the verbosity. -/
theorem parallel_readArguments {s t : Settings} (known : List Flag) (h : s.Alike t)
    (args : List Bytes) :
    Parallel (fun p q => p.1.Alike q.1 ∧ p.2 = q.2) (readArguments known s args)
      (readArguments known t args) := by
  match args with
  | [] => exact .ok ⟨h, rfl⟩
  | a :: rest =>
    simp only [readArguments]
    split
    · exact Parallel.elim (parallel_readArguments known h rest) .error
        fun p q hpq => .ok ⟨hpq.1, congrArg (a :: ·) hpq.2⟩
    · split
      · exact .ok ⟨h, rfl⟩
      · split
        · cases readLong known a with
          | error e => exact .error e
          | ok long =>
            cases long with
            | complete f value =>
              dsimp only
              exact Parallel.elim (parallel_setFlag h f value) .error
                fun s' t' h' => parallel_readArguments known h' rest
            | needsNext f =>
              match rest with
              | [] => exact .error _
              | value :: rest =>
                dsimp only
                exact Parallel.elim (parallel_setFlag h f value) .error
                  fun s' t' h' => parallel_readArguments known h' rest
        · exact Parallel.elim (parallel_readGroup h (a.drop 1)) .error
            fun s' t' h' => parallel_readArguments known h' rest
termination_by args.length

end Verbosity

def verboseGroup (more : Nat) : Bytes := dash :: List.replicate (more + 1) 0x76

section Front

variable (more : Nat) (args : List Bytes)

theorem verboseGroup_ne_endOfFlags : verboseGroup more ≠ endOfFlags := by
  simp [verboseGroup, endOfFlags, List.replicate_succ, dash]

/-- The verbosity flag takes no argument along. -/
theorem takesNext_verboseGroup : takesNext (verboseGroup more) = false := by
  cases more with
  | zero => decide
  | succ more => simp [takesNext, verboseGroup, endOfFlags, List.replicate_succ, dash]

theorem isCandidate_verboseGroup : isCandidate (verboseGroup more) = false := by
  simp [isCandidate, verboseGroup]

theorem candidate?_verboseGroup_cons :
    candidate? (verboseGroup more :: args) = candidate? args := by
  rw [candidate?.eq_def]
  simp only [verboseGroup_ne_endOfFlags, takesNext_verboseGroup, isCandidate_verboseGroup,
    Bool.false_eq_true, ↓reduceIte]

theorem withoutCommand_verboseGroup_cons (command : Bytes) :
    withoutCommand command (verboseGroup more :: args) =
      verboseGroup more :: withoutCommand command args := by
  rw [withoutCommand.eq_def]
  simp only [verboseGroup_ne_endOfFlags, takesNext_verboseGroup, isCandidate_verboseGroup,
    Bool.false_eq_true, and_false, ↓reduceIte]

/-- The verbosity flag in front leaves the command what it is. -/
theorem resolve_verboseGroup_cons :
    resolve (verboseGroup more :: args) =
      (resolve args).map fun (name, rest) => (name, verboseGroup more :: rest) := by
  rw [resolve, candidate?_verboseGroup_cons, resolve]
  cases candidate? args with
  | none => rfl
  | some typed =>
    dsimp only
    cases Name.ofArgument? typed with
    | none => rfl
    | some name =>
      rw [withoutCommand_verboseGroup_cons]
      rfl

theorem flagOfLetter?_verbose (name : Name) : flagOfLetter? name.flags 0x76 = some .verbose := by
  cases name <;> decide

/-- A letter that stands for the verbosity raises it by one, and the group goes on. -/
theorem readGroup_verbose_cons (name : Name) (s : Settings) (n : Nat) :
    readGroup name.flags s (0x76 :: List.replicate n 0x76) =
      readGroup name.flags { s with verbosity := s.verbosity + 1 } (List.replicate n 0x76) := by
  have htest : (Bytes.ascii "test.").isPrefixOf (0x76 :: List.replicate n 0x76) = false := rfl
  have hset : setFlag s .verbose (Flag.verbose.implied?.getD []) =
      .ok { s with verbosity := s.verbosity + 1 } := by
    simp [setFlag, Settings.set, Flag.implied?]
  rw [readGroup, htest, flagOfLetter?_verbose]
  cases n with
  | zero => simp [hset]
  | succ n => simp [hset, List.replicate_succ]

/-- Every further letter of the group raises the verbosity by one. -/
theorem readGroup_replicate (name : Name) (s : Settings) (n : Nat) :
    readGroup name.flags s (List.replicate n 0x76) =
      .ok { s with verbosity := s.verbosity + n } := by
  induction n generalizing s with
  | zero => simp [readGroup]
  | succ n ih =>
    have hsum : s.verbosity + 1 + (n : Int) = s.verbosity + (n + 1 : Nat) := by omega
    rw [List.replicate_succ, readGroup_verbose_cons, ih, hsum]

/-- Read as an argument, the group raises the verbosity and sets nothing else. -/
theorem readArguments_verboseGroup_cons (name : Name) (s : Settings) :
    readArguments name.flags s (verboseGroup more :: args) =
      readArguments name.flags { s with verbosity := s.verbosity + (more + 1 : Nat) } args := by
  have hpositional : isPositional (verboseGroup more) = false := by
    simp [isPositional, verboseGroup, List.replicate_succ]
  have hlong : endOfFlags.isPrefixOf (verboseGroup more) = false := rfl
  have hgroup : readGroup name.flags s ((verboseGroup more).drop 1) = _ :=
    readGroup_replicate name s (more + 1)
  simp only [readArguments, hpositional, verboseGroup_ne_endOfFlags, hlong, hgroup,
    Bool.false_eq_true, ↓reduceIte]

end Front

inductive Request.Alike : Request → Request → Prop where
  | page (name : Name) : Alike (.page name) (.page name)
  | unknownTopic (topic : List Bytes) : Alike (.unknownTopic topic) (.unknownTopic topic)
  | job (task : Task) (source : Source) {s t : Settings} (h : s.Alike t) :
    Alike (.job { task := task, source := source, settings := s })
      (.job { task := task, source := source, settings := t })

section Requests

variable {s t : Settings} (h : s.Alike t) (positional : List Bytes)
include h

theorem parallel_characterRequest (task : Char → Task) :
    Parallel Request.Alike (characterRequest s positional task)
      (characterRequest t positional task) := by
  cases positional with
  | nil => exact .error _
  | cons first rest =>
    simp only [characterRequest]
    split
    · exact .error _
    · cases Character.parse first with
      | error e => exact .error _
      | ok c => exact .ok (.job _ _ h)

theorem parallel_requestOf (name : Name) :
    Parallel Request.Alike (requestOf s positional name) (requestOf t positional name) := by
  have hraw : t.raw = s.raw := by
    obtain ⟨n, rfl⟩ := h
    rfl
  have hseparators : t.separators = s.separators := by
    obtain ⟨n, rfl⟩ := h
    rfl
  cases name with
  | root => exact .ok (.page _)
  | completion => exact .ok (.page _)
  | help =>
    simp only [requestOf, helpRequest]
    split
    · exact .ok (.page _)
    · exact .ok (.unknownTopic _)
  | find => exact parallel_characterRequest h positional _
  | quoted =>
    simp only [requestOf, hraw]
    exact parallel_characterRequest h positional _
  | fields =>
    simp only [requestOf, hseparators]
    split
    · exact .error _
    · exact .ok (.job _ _ h)

end Requests

/-- A flag for the verbosity in front changes nothing of a request but the verbosity. -/
theorem parallel_request_verboseGroup_cons (more : Nat) (args : List Bytes) :
    Parallel Request.Alike (request args) (request (verboseGroup more :: args)) := by
  simp only [request, resolve_verboseGroup_cons]
  cases resolve args with
  | error typed => exact .error _
  | ok found =>
    obtain ⟨name, rest⟩ := found
    simp only [Except.map, readArguments_verboseGroup_cons]
    have halike : Settings.Alike {} { verbosity := 0 + (more + 1 : Nat) } := ⟨_, rfl⟩
    refine Parallel.elim (parallel_readArguments name.flags halike rest) (fun e => .error _) ?_
    rintro ⟨s, positional⟩ ⟨t, _⟩ ⟨h, rfl⟩
    have hhelp : t.help = s.help := by
      obtain ⟨n, rfl⟩ := h
      rfl
    simp only [hhelp]
    split
    · exact .ok (.page _)
    · exact parallel_requestOf h positional name

/-- What a run prints and whether it fails do not depend on the verbosity. -/
theorem stdout_failed_of_alike {r q : Request} (h : r.Alike q)
    (held : Source → Except SourceFault Bytes) :
    (q.run held).stdout = (r.run held).stdout ∧ (q.run held).failed = (r.run held).failed := by
  cases h with
  | page name => exact ⟨rfl, rfl⟩
  | unknownTopic topic => exact ⟨rfl, rfl⟩
  | @job task source s _ h =>
    obtain ⟨n, rfl⟩ := h
    have hbuffer : Job.buffer ⟨task, source, { s with verbosity := n }⟩ (held source) =
        Job.buffer ⟨task, source, s⟩ (held source) := rfl
    simp only [Request.run, Job.run, hbuffer]
    cases Job.buffer ⟨task, source, s⟩ (held source) with
    | error e => exact ⟨rfl, rfl⟩
    | ok b => exact ⟨rfl, rfl⟩

theorem runWith_verboseGroup_cons (more : Nat) (args : List Bytes)
    (held : Source → Except SourceFault Bytes) :
    (runWith (verboseGroup more :: args) held).stdout = (runWith args held).stdout ∧
      (runWith (verboseGroup more :: args) held).failed = (runWith args held).failed := by
  simp only [runWith]
  refine Parallel.elim (parallel_request_verboseGroup_cons more args) (fun e => ⟨rfl, rfl⟩) ?_
  intro r q h
  exact stdout_failed_of_alike h held

/-- Any number of verbosity flags changes neither what is printed nor whether the run fails. -/
theorem runWith_verboseGroups (more : List Nat) (args : List Bytes)
    (held : Source → Except SourceFault Bytes) :
    (runWith (more.map verboseGroup ++ args) held).stdout = (runWith args held).stdout ∧
      (runWith (more.map verboseGroup ++ args) held).failed = (runWith args held).failed := by
  induction more with
  | nil => exact ⟨rfl, rfl⟩
  | cons n more ih =>
    have hfront := runWith_verboseGroup_cons n (more.map verboseGroup ++ args) held
    exact ⟨hfront.1.trans ih.1, hfront.2.trans ih.2⟩

end TextWalk.Command

namespace TextWalk.FileTree

def destination (path : Bytes) : Place :=
  (pathComponents path).foldl (fun place part => enter part place)
    (if path.head? = some 0x2F then .outside else .inside [])

def SameEntry (kept : Place) (f f' : Bytes × Bytes) : Prop :=
  f'.1 = f.1 ∧ (Place.inside (entryPath f.1) = kept → f'.2 = f.2)

/-- Trees of the same names: the files of the second hold any bytes, but the one at the kept place
holds what it holds in the first. -/
structure AgreeAt (kept : Place) (t t' : FileTree) : Prop where
  directories_eq : t'.directories = t.directories
  files : List.Forall₂ (SameEntry kept) t.files t'.files

section Entries

variable {kept : Place} {l l' : List (Bytes × Bytes)} (h : List.Forall₂ (SameEntry kept) l l')
include h

theorem names_eq : l'.map (·.1) = l.map (·.1) := by
  induction h with
  | nil => rfl
  | cons hf _ ih => rw [List.map_cons, List.map_cons, hf.1, ih]

/-- Two trees that agree at a place find the same entry, or entries at some other place. -/
theorem find?_eq (path : List Bytes) :
    l'.find? (fun f => entryPath f.1 == path) = l.find? (fun f => entryPath f.1 == path) ∨
      Place.inside path ≠ kept ∧ ∃ f f', l.find? (fun f => entryPath f.1 == path) = some f ∧
        l'.find? (fun f => entryPath f.1 == path) = some f' := by
  induction h with
  | nil => exact Or.inl rfl
  | @cons f f' l l' hf _ ih =>
    obtain ⟨hname, hcontent⟩ := hf
    by_cases hpath : entryPath f.1 = path
    · have hfound : (entryPath f.1 == path) = true := beq_iff_eq.mpr hpath
      have hfound' : (entryPath f'.1 == path) = true := by rw [hname, hfound]
      simp only [List.find?_cons, hfound, hfound']
      by_cases hkept : Place.inside path = kept
      · have hsame : f' = f := Prod.ext hname (hcontent (by rw [hpath, hkept]))
        exact Or.inl (by rw [hsame])
      · exact Or.inr ⟨hkept, f, f', rfl, rfl⟩
    · have hother : (entryPath f.1 == path) = false := beq_eq_false_iff_ne.mpr hpath
      have hother' : (entryPath f'.1 == path) = false := by rw [hname, hother]
      simp only [List.find?_cons, hother, hother']
      exact ih

end Entries

namespace AgreeAt

variable {kept : Place} {t t' : FileTree}

/-- The same stands everywhere, up to what files hold outside the kept place. -/
theorem node?_eq (h : AgreeAt kept t t') (place : Place) :
    t'.node? place = t.node? place ∨
      place ≠ kept ∧ ∃ c c', t.node? place = some (.file c) ∧ t'.node? place = some (.file c') := by
  cases place with
  | outside => exact Or.inl rfl
  | inside path =>
    rcases find?_eq h.files path with hfind | ⟨hkept, f, f', hf, hf'⟩
    · exact Or.inl (by rw [node?, node?, hfind, h.directories_eq, names_eq h.files])
    · exact Or.inr ⟨hkept, f.2, f'.2, by rw [node?, hf], by rw [node?, hf']⟩

/-- Following a path to the kept place meets nothing that differs. -/
theorem follow_eq (h : AgreeAt kept t t') (parts : List Bytes) (place : Place)
    (hkept : parts.foldl (fun place part => enter part place) place = kept) :
    t'.follow place parts = t.follow place parts := by
  induction parts generalizing place with
  | nil =>
    rcases h.node?_eq place with hnode | ⟨hne, -⟩
    · rw [follow, follow, hnode]
    · exact absurd hkept hne
  | cons part parts ih =>
    -- A file on the way stops both, whatever it holds.
    rcases h.node?_eq place with hnode | ⟨-, c, c', hc, hc'⟩
    · rw [follow, follow, hnode, ih (enter part place) hkept]
    · rw [follow, follow, hc, hc']

/-- A path opens the same in trees that agree where it leads. -/
theorem openPath_eq {path : Bytes} (h : AgreeAt (destination path) t t') :
    t'.openPath path = t.openPath path := by
  simp only [openPath, h.follow_eq (pathComponents path) _ rfl]

end AgreeAt

end TextWalk.FileTree

namespace TextWalk.Command

open FileTree

def Name.fileArgument? : Name → List Bytes → Option Bytes
  | find, positional => positional[1]?
  | quoted, positional => positional[1]?
  | fields, positional => positional[0]?
  | _, _ => none

/-- The arguments name a file for a command: once its flags are read, the argument after its own is
there. -/
def NamesFile (args : List Bytes) (file : Bytes) : Prop :=
  ∃ name rest, resolve args = .ok (name, rest) ∧
    ∀ s positional, readArguments name.flags {} rest = .ok (s, positional) →
      name.fileArgument? positional = some file

section Source

variable {args positional : List Bytes} {s : Settings} {j : Job} {file : Bytes}

theorem source_of_characterRequest {task : Char → Task} (hfile : positional[1]? = some file)
    (h : characterRequest s positional task = .ok (.job j)) : j.source = .file file := by
  match positional with
  | [] => simp at hfile
  | [first] => simp at hfile
  | first :: name :: more =>
    obtain rfl : name = file := by simpa using hfile
    simp only [characterRequest] at h
    split at h
    · simp at h
    · split at h
      · simp at h
      · simp only [Except.ok.injEq, Request.job.injEq] at h
        rw [← h]
        rfl

theorem source_of_requestOf {name : Name} (hfile : name.fileArgument? positional = some file)
    (h : requestOf s positional name = .ok (.job j)) : j.source = .file file := by
  cases name with
  | find => exact source_of_characterRequest hfile h
  | quoted => exact source_of_characterRequest hfile h
  | fields =>
    simp only [requestOf] at h
    split at h
    · simp at h
    · simp only [Except.ok.injEq, Request.job.injEq] at h
      cases positional with
      | nil => simp [Name.fileArgument?] at hfile
      | cons first rest =>
        obtain rfl : first = file := by simpa [Name.fileArgument?] using hfile
        rw [← h]
        rfl
  | root => simp [Name.fileArgument?] at hfile
  | help => simp [Name.fileArgument?] at hfile
  | completion => simp [Name.fileArgument?] at hfile

/-- A job of arguments that name a file reads that file. -/
theorem NamesFile.source_eq (h : NamesFile args file) (hrequest : request args = .ok (.job j)) :
    j.source = .file file := by
  obtain ⟨name, rest, hresolve, hfile⟩ := h
  cases hread : readArguments name.flags {} rest with
  | error e => simp [request, hresolve, hread] at hrequest
  | ok result =>
    obtain ⟨s, positional⟩ := result
    cases hhelp : s.help with
    | true => simp [request, hresolve, hread, hhelp] at hrequest
    | false =>
      rw [request_of_readArguments hresolve hread hhelp] at hrequest
      exact source_of_requestOf (hfile s positional hread) hrequest

/-- Nothing but the source that a request names can tell two runs apart. -/
theorem runWith_congr {held held' : Source → Except SourceFault Bytes}
    (h : ∀ j, request args = .ok (.job j) → held' j.source = held j.source) :
    runWith args held' = runWith args held := by
  rw [runWith, runWith]
  cases hrequest : request args with
  | error e => rfl
  | ok r =>
    cases r with
    | page name => rfl
    | unknownTopic topic => rfl
    | job j => simp only [Request.run, h j hrequest]

end Source

/-- Flags in front that only raise the verbosity, written with their letter once or more often,
change neither the standard output nor whether a run fails, whatever the sources hold. If the
arguments name a file, the whole outcome depends on what that file holds and on no other source. So
in a file tree it is the same for every standard input and for every content of the files other than
the one that the name leads to. -/
theorem run_unaffected_by_verbosity_and_other_files (args : List Bytes) :
    (∀ (held : Source → Except SourceFault Bytes) (more : List Nat),
      (runWith (more.map verboseGroup ++ args) held).stdout = (runWith args held).stdout ∧
        (runWith (more.map verboseGroup ++ args) held).failed = (runWith args held).failed) ∧
      (∀ (file : Bytes) (held held' : Source → Except SourceFault Bytes), NamesFile args file →
        held' (.file file) = held (.file file) → runWith args held' = runWith args held) ∧
      ∀ (stdin : Bytes) (files : FileTree),
        (∀ more : List Nat,
          (run (more.map verboseGroup ++ args) stdin files).stdout =
              (run args stdin files).stdout ∧
            (run (more.map verboseGroup ++ args) stdin files).failed =
              (run args stdin files).failed) ∧
          ∀ (file stdin' : Bytes) (files' : FileTree), NamesFile args file →
            AgreeAt (destination file) files files' →
              run args stdin' files' = run args stdin files := by
  have hsource {file : Bytes} (hfile : NamesFile args file)
      {held held' : Source → Except SourceFault Bytes}
      (hheld : held' (.file file) = held (.file file)) : runWith args held' = runWith args held := by
    apply runWith_congr
    intro j hrequest
    rw [hfile.source_eq hrequest, hheld]
  refine ⟨fun held more => runWith_verboseGroups more args held,
    fun file held held' hfile hheld => hsource hfile hheld, ?_⟩
  intro stdin files
  refine ⟨fun more => runWith_verboseGroups more args _, ?_⟩
  intro file stdin' files' hfile hagree
  apply hsource hfile
  rw [Source.held, Source.held, hagree.openPath_eq]

/-- The file is reached through its own directory while another file and the standard input change or
cannot be read, and the same arguments are given with the verbosity raised three times. -/
theorem run_unaffected_of_two_files :
    let args := [Bytes.ascii "find", Bytes.ascii ",", Bytes.ascii "./a.txt"]
    let files : FileTree :=
      { files := [(Bytes.ascii "a.txt", Bytes.ascii "x,y"), (Bytes.ascii "b.txt", [])] }
    let files' : FileTree :=
      { files := [(Bytes.ascii "a.txt", Bytes.ascii "x,y"), (Bytes.ascii "b.txt", [0x2C, 0xFF])] }
    let held (source : Source) : Except SourceFault Bytes :=
      if source = .file (Bytes.ascii "./a.txt") then .ok (Bytes.ascii "x,y")
      else .error .isDirectory
    NamesFile args (Bytes.ascii "./a.txt") ∧ runWith args held = run args [] files ∧
      AgreeAt (destination (Bytes.ascii "./a.txt")) files files' ∧
      run args [0x2C] files' = run args [] files ∧
      (run ([Bytes.ascii "-v", Bytes.ascii "-vv"] ++ args) [] files).stdout =
        (run args [] files).stdout := by
  intro args files files' held
  have hnames : NamesFile args (Bytes.ascii "./a.txt") := by
    refine ⟨.find, [Bytes.ascii ",", Bytes.ascii "./a.txt"], by decide +kernel, ?_⟩
    intro s positional h
    have hread : readArguments Name.find.flags {} [Bytes.ascii ",", Bytes.ascii "./a.txt"] =
        .ok ({}, [Bytes.ascii ",", Bytes.ascii "./a.txt"]) := by decide +kernel
    rw [hread, Except.ok.injEq, Prod.mk.injEq] at h
    rw [← h.2]
    rfl
  have hagree : AgreeAt (destination (Bytes.ascii "./a.txt")) files files' := by
    refine ⟨rfl, .cons ⟨rfl, fun _ => rfl⟩ (.cons ⟨rfl, ?_⟩ .nil)⟩
    intro h
    exact absurd h (by decide +kernel)
  have hheld : held (.file (Bytes.ascii "./a.txt")) =
      Source.held [] files (.file (Bytes.ascii "./a.txt")) := by decide +kernel
  obtain ⟨-, hsource, htree⟩ := run_unaffected_by_verbosity_and_other_files args
  obtain ⟨hverbose, hfiles⟩ := htree [] files
  exact ⟨hnames, hsource _ _ held hnames hheld, hagree, hfiles _ _ _ hnames hagree,
    (hverbose [0, 1]).1⟩

end TextWalk.Command
