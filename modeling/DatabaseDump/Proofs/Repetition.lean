import DatabaseDump.Proofs.Filling
import DatabaseDump.Proofs.Sections

/-!
# Dumps one after the other

The session of a dump goes on to the next one, with the files that were left, the buffers that
were used and the counts so far. None of that matters to what the next dump does.

The argument compares two sessions in which the same work is done, of which the second one has
all the files of the first and maybe more. `Repeats` says that the work comes to the same
outcome in both and adds the same. Files that are there matter in one place only: a path that
leads through one of them fails in another way than a path that leads nowhere. So the second
session must not have more files than the first one has in the end, if the work fails there.
-/

namespace DatabaseDump

open Work

/-! ## Folders with the same directories -/

namespace Folder

/-- The same directories are there, and files at least in the same places. -/
structure Within (small big : Folder) : Prop where
  base : big.base = small.base
  directories : big.directories = small.directories
  files : ∀ location, (small.read? location).isSome = true → (big.read? location).isSome = true

variable {small big : Folder}

theorem Within.isDirectory_eq (h : small.Within big) (location : Location) :
    big.isDirectory location = small.isDirectory location := by
  rw [isDirectory, isDirectory, h.base, h.directories]

/-- Folders that are within each other have files in the same places. -/
theorem Within.isSome_read?_eq (h : small.Within big) (h' : big.Within small)
    (location : Location) : (big.read? location).isSome = (small.read? location).isSome :=
  Bool.eq_iff_iff.mpr ⟨h'.files location, h.files location⟩

/-- More files do not matter to a walk that comes to its end. -/
theorem Within.walk_eq (h : small.Within big) {location : Location} {names : List String}
    (hsame : (small.walk location names).isOk = true ∨ big.Within small) :
    big.walk location names = small.walk location names := by
  -- along the names of the path, with the first folder deciding which way a step goes
  induction names generalizing location with
  | nil => rfl
  | cons name rest ih =>
    simp only [walk, h.isDirectory_eq] at hsame ⊢
    split
    · rename_i hdots
      rw [if_pos hdots] at hsame
      exact ih hsame
    · rename_i hdots
      rw [if_neg hdots] at hsame
      split
      · rfl
      · rename_i hshort
        rw [if_neg hshort] at hsame
        split
        · rename_i hdirectory
          rw [if_pos hdirectory] at hsame
          exact ih hsame
        · -- here the walk fails, and files decide how
          rename_i hother
          rw [if_neg hother] at hsame
          rcases hsame with hok | hback
          · split at hok <;> cases hok
          · rw [h.isSome_read?_eq hback]

/-- Nor to where a path leads: all but its last name are walked. -/
theorem Within.locate_eq (h : small.Within big) {path : Path}
    (hsame : (small.locate path).isOk = true ∨ big.Within small) :
    big.locate path = small.locate path := by
  have hstart : big.start path = small.start path := by rw [start, start, h.base]
  unfold locate at hsame ⊢
  rw [hstart]
  cases hlast : path.names.getLast? with
  | none => rfl
  | some name =>
    rw [hlast] at hsame
    -- a path that leads somewhere has been walked to its end
    have hwalk : big.walk (small.start path) path.names.dropLast
        = small.walk (small.start path) path.names.dropLast := by
      refine h.walk_eq (hsame.imp_left fun hok => ?_)
      cases hfound : small.walk (small.start path) path.names.dropLast with
      | ok found => rfl
      | error fault =>
        rw [hfound] at hok
        cases hok
    rw [hwalk]

theorem Within.locateFile_eq (h : small.Within big) {path : Path}
    (hsame : (small.locateFile path).isOk = true ∨ big.Within small) :
    big.locateFile path = small.locateFile path := by
  have hlocate : big.locate path = small.locate path := by
    refine h.locate_eq (hsame.imp_left fun hok => ?_)
    cases hfound : small.locateFile path with
    | ok location =>
      obtain ⟨directory, name, hlocate, -⟩ := exists_of_locateFile hfound
      rw [hlocate]
      rfl
    | error fault =>
      rw [hfound] at hok
      cases hok
  simp only [locateFile, hlocate, h.isDirectory_eq]

/-- More files do not matter when a file can be opened. -/
theorem Within.openForWriting_eq (h : small.Within big) {path : Path}
    (hsame : (small.openForWriting path).isOk = true ∨ big.Within small) :
    big.openForWriting path = small.openForWriting path := by
  unfold openForWriting at hsame ⊢
  split
  · rfl
  · rename_i hnull
    rw [if_neg hnull] at hsame
    have hlocate : big.locateFile path = small.locateFile path := by
      refine h.locateFile_eq (hsame.imp_left fun hok => ?_)
      cases hfound : small.locateFile path with
      | ok location => rfl
      | error fault =>
        rw [hfound] at hok
        cases hok
    rw [hlocate]

end Folder

/-- Files that are written either leave a location alone or decide what it holds. -/
theorem latest_cases (files : List (Location × Bytes)) (location : Location) :
    (∀ held, latest files location held = held)
      ∨ ∃ content, ∀ held, latest files location held = some content := by
  induction files with
  | nil => exact .inl fun _ => rfl
  | cons file files ih =>
    rcases ih with hkept | ⟨content, hwritten⟩
    · by_cases hfile : file.1 = location
      · refine .inr ⟨file.2, fun held => ?_⟩
        rw [latest, List.foldl_cons, if_pos hfile]
        exact hkept _
      · refine .inl fun held => ?_
        rw [latest, List.foldl_cons, if_neg hfile]
        exact hkept held
    · exact .inr ⟨content, fun held => hwritten _⟩

/-! ## What is added to a session -/

attribute [ext] DumpStats

/-! Counts are added up part by part. -/

namespace DumpStats

instance : Append DumpStats where
  append first second := ⟨first.databases ++ second.databases,
    first.totalTables + second.totalTables, first.totalRows + second.totalRows⟩

@[simp] theorem databases_append (first second : DumpStats) :
    (first ++ second).databases = first.databases ++ second.databases := rfl

@[simp] theorem totalTables_append (first second : DumpStats) :
    (first ++ second).totalTables = first.totalTables + second.totalTables := rfl

@[simp] theorem totalRows_append (first second : DumpStats) :
    (first ++ second).totalRows = first.totalRows + second.totalRows := rfl

theorem append_assoc (first second third : DumpStats) :
    first ++ second ++ third = first ++ (second ++ third) :=
  DumpStats.ext (List.append_assoc ..) (Nat.add_assoc ..) (Nat.add_assoc ..)

@[simp] theorem append_nil (stats : DumpStats) : stats ++ {} = stats :=
  DumpStats.ext (List.append_nil _) rfl rfl

end DumpStats

namespace Session

/-- Statements, files and counts were added. -/
structure Gains (before : Session) (written : Written) (counts : DumpStats)
    (after : Session) : Prop where
  grows : before.Grows written after
  stats : after.stats = before.stats ++ counts

/-- **What is gained in a row is added up.** -/
theorem Gains.trans {first second third : Session} {written more : Written}
    {counts others : DumpStats} (h : first.Gains written counts second)
    (h' : second.Gains more others third) :
    first.Gains (written ++ more) (counts ++ others) third where
  grows := h.grows.trans h'.grows
  stats := by rw [h'.stats, h.stats, DumpStats.append_assoc]

theorem Asked.gains {before after : Session} (h : before.Asked after) :
    before.Gains {} {} after where
  grows := h.grows
  stats := by rw [h.stats, DumpStats.append_nil]

/-- Without a log file the files that were written are all that has changed. -/
theorem Grows.read?_eq {before after : Session} {written : Written}
    (h : before.Grows written after) (hjournal : before.journal = none) (location : Location) :
    after.folder.read? location = latest written.files location (before.folder.read? location) :=
  h.files location (by simp [hjournal])

/-- No file goes away. -/
theorem Grows.within {before after : Session} {written : Written}
    (h : before.Grows written after) (hjournal : before.journal = none) :
    before.folder.Within after.folder where
  base := h.base
  directories := h.directories
  files := by
    intro location hfile
    rw [h.read?_eq hjournal]
    rcases latest_cases written.files location with hkept | ⟨content, hwritten⟩
    · rw [hkept]
      exact hfile
    · rw [hwritten]
      rfl

/-- Where the same files are written, the second session still has all files of the first. -/
theorem Grows.within_of_within {first first' second second' : Session} {written : Written}
    (h : first.Grows written first') (h' : second.Grows written second')
    (hjournal : first.journal = none) (hjournal' : second.journal = none)
    (hwithin : first.folder.Within second.folder) : first'.folder.Within second'.folder where
  base := h'.base.trans (hwithin.base.trans h.base.symm)
  directories := h'.directories.trans (hwithin.directories.trans h.directories.symm)
  files := by
    intro location hfile
    rw [h.read?_eq hjournal] at hfile
    rw [h'.read?_eq hjournal']
    -- a file that is there now was there before or has just been written, in both sessions
    rcases latest_cases written.files location with hkept | ⟨content, hwritten⟩
    · rw [hkept] at hfile ⊢
      exact hwithin.files location hfile
    · rw [hwritten]
      rfl

/-- A folder that has the files of one session and all that were written has those of the other. -/
theorem Grows.within_of_both {first first' second second' : Session} {written : Written}
    {folder : Folder} (h : first.Grows written first') (h' : second.Grows written second')
    (hjournal : first.journal = none) (hjournal' : second.journal = none)
    (hfirst : first'.folder.Within folder) (hsecond : second.folder.Within folder) :
    second'.folder.Within folder where
  base := hsecond.base.trans h'.base.symm
  directories := hsecond.directories.trans h'.directories.symm
  files := by
    intro location hfile
    rw [h'.read?_eq hjournal'] at hfile
    rcases latest_cases written.files location with hkept | ⟨content, hwritten⟩
    · rw [hkept] at hfile
      exact hsecond.files location hfile
    · refine hfirst.files location ?_
      rw [h.read?_eq hjournal, hwritten]
      rfl

end Session

/-! ## Work that can be repeated -/

namespace Work

variable {α β : Type}

/-- The work does the same in a session that has more files, as far as they do not matter. -/
structure Repeats (work : Work α) : Prop where
  grows : ∀ session : Session, ∃ written, session.Grows written (start work session).2
  ready : ∀ session : Session, session.pool.IsReady → (start work session).2.pool.IsReady
  again : ∀ first second : Session, first.journal = none → second.journal = none →
    first.folder.Within second.folder →
    (start work first).1.isOk = true ∨ second.folder.Within (start work first).2.folder →
    (start work second).1 = (start work first).1
      ∧ ∃ written counts, first.Gains written counts (start work first).2
        ∧ second.Gains written counts (start work second).2

/-- A question is answered the same in any session. -/
theorem IsQuestion.repeats {work : Work α} (h : IsQuestion work) : Repeats work := by
  obtain ⟨outcome, hwork⟩ := h
  refine ⟨fun session => ⟨{}, (hwork.asked session).grows⟩,
    fun session hready => (hwork.asked session).pool.symm ▸ hready, ?_⟩
  intro first second _ _ _ _
  rw [hwork.outcome first, hwork.outcome second]
  exact ⟨rfl, {}, {}, (hwork.asked first).gains, (hwork.asked second).gains⟩

theorem repeats_pure (a : α) : Repeats (pure a : Work α) := (asks_pure a).isQuestion.repeats

theorem repeats_throw (failure : Failure) : Repeats (throw failure : Work α) :=
  (asks_throw failure).isQuestion.repeats

/-- A change that adds the same to every session can be made again. -/
theorem repeats_modify {change : Session → Session} (written : Written) (counts : DumpStats)
    (h : ∀ session : Session, session.Gains written counts (change session))
    (hready : ∀ session : Session, session.pool.IsReady → (change session).pool.IsReady) :
    Repeats (modify change : Work Unit) := by
  refine ⟨fun session => ⟨written, (h session).grows⟩, hready, ?_⟩
  intro first second _ _ _ _
  exact ⟨rfl, written, counts, h first, h second⟩

theorem repeats_emitAll (statements : List Sql.Statement) : Repeats (emitAll statements) :=
  repeats_modify ⟨statements, []⟩ {} (fun session =>
    ⟨session.grows_output statements, (DumpStats.append_nil _).symm⟩) fun _ => id

theorem repeats_emit (statement : Sql.Statement) : Repeats (emit statement) :=
  repeats_emitAll [statement]

theorem repeats_count {change : DumpStats → DumpStats} (counts : DumpStats)
    (h : ∀ stats, change stats = stats ++ counts) : Repeats (count change) :=
  repeats_modify {} counts
    (fun session => ⟨Session.grows_of_eq rfl rfl rfl, h session.stats⟩) fun _ => id

/-- A file that is written again replaces itself. -/
theorem repeats_put (location : Location) (content : Bytes) :
    Repeats (modify fun session =>
      { session with folder := session.folder.put location content } : Work Unit) :=
  repeats_modify ⟨[], [(location, content)]⟩ {} (fun session =>
    ⟨session.grows_put location content, (DumpStats.append_nil _).symm⟩) fun _ => id

/-- What is read of the session has to be the same in both, unless the work fails. -/
theorem Repeats.of_get {next : β → Work α} (view : Session → β) (h : ∀ b, Repeats (next b))
    (hview : ∀ first second : Session, first.folder.Within second.folder →
      (start (next (view first)) first).1.isOk = true
        ∨ second.folder.Within (start (next (view first)) first).2.folder →
      view second = view first) :
    Repeats (do next (view (← get))) where
  grows := fun session => (h (view session)).grows session
  ready := fun session => (h (view session)).ready session
  again := by
    intro first second hjournal hjournal' hwithin hsame
    have hagain := (h (view first)).again first second hjournal hjournal' hwithin hsame
    -- the same is read in the second session, so the same work follows there
    have hsecond : start (do next (view (← get)) : Work α) second
        = start (next (view first)) second := by
      rw [← hview first second hwithin hsame]
      rfl
    rw [hsecond]
    exact hagain

/-- **Work in a row can be repeated if its parts can.** -/
theorem Repeats.bind {work : Work α} {next : α → Work β} (h : Repeats work)
    (h' : ∀ a, Repeats (next a)) : Repeats (work >>= next) where
  grows := by
    intro session
    obtain ⟨written, hgrows⟩ := h.grows session
    rw [start_bind]
    generalize start work session = ended at hgrows
    obtain ⟨outcome, middle⟩ := ended
    cases outcome with
    | error failure => exact ⟨written, hgrows⟩
    | ok a =>
      obtain ⟨more, hmore⟩ := (h' a).grows middle
      exact ⟨written ++ more, hgrows.trans hmore⟩
  ready := by
    intro session hready
    have hmiddle := h.ready session hready
    rw [start_bind]
    generalize start work session = ended at hmiddle
    obtain ⟨outcome, middle⟩ := ended
    cases outcome with
    | error failure => exact hmiddle
    | ok a => exact (h' a).ready middle hmiddle
  again := by
    intro first second hjournal hjournal' hwithin hsame
    rw [start_bind] at hsame
    rw [start_bind, start_bind]
    cases hstart : start work first with
    | mk outcome first' =>
    cases hstart' : start work second with
    | mk outcome' second' =>
    have hpart := h.again first second hjournal hjournal' hwithin
    rw [hstart] at hsame hpart
    rw [hstart'] at hpart
    cases outcome with
    | error failure =>
      -- the first part is all that is done, and the assumption about its failure is the given one
      obtain ⟨rfl, hgains⟩ := hpart (.inr (hsame.resolve_left Bool.false_ne_true))
      exact ⟨rfl, hgains⟩
    | ok a =>
      obtain ⟨rfl, written, counts, hgains, hgains'⟩ := hpart (.inl rfl)
      have hfirst := hgains.grows.journal.trans hjournal
      have hsecond := hgains'.grows.journal.trans hjournal'
      -- what was written by now is there in the end
      have hlater : (start (next a) first').1.isOk = true
          ∨ second'.folder.Within (start (next a) first').2.folder := by
        refine hsame.imp_right fun hback => ?_
        obtain ⟨more, hmore⟩ := (h' a).grows first'
        exact hgains.grows.within_of_both hgains'.grows hjournal hjournal'
          (hmore.within hfirst) hback
      obtain ⟨houtcome, more, others, hmore, hmore'⟩ := (h' a).again first' second' hfirst hsecond
        (hgains.grows.within_of_within hgains'.grows hjournal hjournal' hwithin) hlater
      exact ⟨houtcome, written ++ more, counts ++ others, hgains.trans hmore,
        hgains'.trans hmore'⟩

/-- **A loop can be repeated if its turns can.** -/
theorem Repeats.mapM {f : α → Work β} (h : ∀ a, Repeats (f a)) (list : List α) :
    Repeats (list.mapM f) := by
  induction list with
  | nil => exact repeats_pure []
  | cons a list ih =>
    rw [List.mapM_cons]
    exact (h a).bind fun b => ih.bind fun bs => repeats_pure (b :: bs)

theorem Repeats.forM {f : α → Work Unit} (h : ∀ a, Repeats (f a)) (list : List α) :
    Repeats (list.forM f) := by
  induction list with
  | nil => exact repeats_pure ()
  | cons a list ih => exact (h a).bind fun _ => ih

end Work

/-- Every file is as it was before some work or as it is after it. -/
structure Folder.Between (before after folder : Folder) : Prop where
  base : folder.base = before.base
  directories : folder.directories = before.directories
  files : ∀ location, folder.read? location = before.read? location
    ∨ folder.read? location = after.read? location

/-- Once more, the work does the same and leaves the same files. -/
theorem Work.Repeats.once_more {α : Type} {work : Work α} (h : Repeats work)
    {first second : Session} (hjournal : first.journal = none) (hjournal' : second.journal = none)
    (hbetween : first.folder.Between (start work first).2.folder second.folder) :
    (start work second).1 = (start work first).1
      ∧ ∃ written counts, first.Gains written counts (start work first).2
        ∧ second.Gains written counts (start work second).2
        ∧ ∀ location, (start work second).2.folder.read? location
          = (start work first).2.folder.read? location := by
  obtain ⟨_, hgrows⟩ := h.grows first
  have hkeeps := hgrows.within hjournal
  -- the second session lies between the first one before and after the work
  have hwithin : first.folder.Within second.folder := by
    refine ⟨hbetween.base, hbetween.directories, fun location hfile => ?_⟩
    rcases hbetween.files location with hold | hnew
    · rw [hold]
      exact hfile
    · rw [hnew]
      exact hkeeps.files location hfile
  have hback : second.folder.Within (start work first).2.folder := by
    refine ⟨hkeeps.base.trans hbetween.base.symm,
      hkeeps.directories.trans hbetween.directories.symm, fun location hfile => ?_⟩
    rcases hbetween.files location with hold | hnew
    · rw [hold] at hfile
      exact hkeeps.files location hfile
    · rwa [hnew] at hfile
  obtain ⟨houtcome, written, counts, hgains, hgains'⟩ :=
    h.again first second hjournal hjournal' hwithin (.inr hback)
  refine ⟨houtcome, written, counts, hgains, hgains', fun location => ?_⟩
  -- a file that is not written again is as it was, which is how the first time left it
  have hfirst := hgains.grows.read?_eq hjournal location
  rw [hgains'.grows.read?_eq hjournal']
  rcases latest_cases written.files location with hkept | ⟨content, hwritten⟩
  · rw [hkept] at hfirst ⊢
    rcases hbetween.files location with hold | hnew
    · exact hold.trans hfirst.symm
    · exact hnew
  · rw [hfirst, hwritten, hwritten]

/-!
## Dumping can be repeated

Each function of a dump in turn, from the rows of a table to the whole. Only two of them look at
the session: opening a side file, and naming it in the statement that loads it.
-/

namespace Dump

/-- The buffers come back as they were borrowed, so they are ready for the next time. -/
theorem Inserts.repeats_writeTable (budget : Sql.Budget) (table : Value) (columns : List Column)
    (source : RowSource Failure) : Repeats (writeTable budget table columns source) := by
  have hbuffers : Repeats useBuffers := repeats_modify {} {}
    (fun session => ⟨Session.grows_of_eq rfl rfl rfl, (DumpStats.append_nil _).symm⟩)
    fun _ => Pool.IsReady.giveBack_lend_two
  refine hbuffers.bind fun _ => ?_
  refine (asks_ofResult _).isQuestion.repeats.bind fun groups => ?_
  cases source.failure with
  | some failure => exact (repeats_emitAll _).bind fun _ => repeats_throw failure
  | none =>
    refine (repeats_emitAll _).bind fun _ => ?_
    exact (asks_record _).isQuestion.repeats.bind fun _ => repeats_pure _

/-- A side file that was left by the last dump is opened like one that is not there. -/
theorem SideFile.repeats_openFile (style : SideFile.Style) (database table : Value) :
    Repeats (SideFile.openFile style database table) := by
  have hopened : ∀ result : Except Failure Location, Repeats (do
      let location ← ofResult result
      modify fun session => { session with folder := session.folder.put location [] }
      return (location, ← ofResult (delimiterChar style.delimiter))) := by
    intro result
    refine (asks_ofResult _).isQuestion.repeats.bind fun location => ?_
    refine (repeats_put location []).bind fun _ => ?_
    exact (asks_ofResult _).isQuestion.repeats.bind fun delimiter => repeats_pure _
  have hread := Repeats.of_get
    (fun session => session.folder.openForWriting (path session.folder.basePath database table))
    hopened
  refine hread fun first second hwithin hsame => ?_
  have hbase : second.folder.basePath = first.folder.basePath := by
    rw [Folder.basePath, Folder.basePath, hwithin.base]
  rw [hbase]
  refine hwithin.openForWriting_eq ?_
  cases hfound : first.folder.openForWriting (path first.folder.basePath database table) with
  | ok location => exact .inl rfl
  | error failure =>
    -- nothing was written before this failure
    rw [hfound] at hsame
    exact .inr (hsame.resolve_left Bool.false_ne_true)

/-- The file is written anew each time, and the statement that loads it is the same. -/
theorem SideFile.repeats_writeRows (style : SideFile.Style) (location : Location)
    (delimiter : Char) (database table : Value) (columns : List Column)
    (source : RowSource Failure) :
    Repeats (SideFile.writeRows style location delimiter database table columns source) := by
  refine (repeats_put location _).bind fun _ => ?_
  cases source.failure with
  | some failure => exact repeats_throw failure
  | none =>
    -- the statement names the working directory, which is the same in both sessions
    have hloaded : ∀ base : Location, Repeats (do
        let path := (path ⟨"/", base⟩ database table).text
        emit (.load ⟨path, table.toText, String.singleton delimiter, style.localFile⟩)
        let stats : TableStats := { table, rows := source.rows.length, statements := 1, path }
        note .debug (summary stats)
        return stats) := by
      intro base
      refine (repeats_emit _).bind fun _ => ?_
      exact (asks_record _).isQuestion.repeats.bind fun _ => repeats_pure _
    exact Repeats.of_get (fun session => session.folder.base) hloaded
      fun _ _ hwithin _ => hwithin.base

section
variable (server : Server) (options : Options) (writer : Writer)

theorem repeats_tableRows (filter database table : Value) :
    Repeats (tableRows server writer filter database table) := by
  refine (asks_record _).isQuestion.repeats.bind fun _ => ?_
  refine (Connection.isQuestion_stream ..).repeats.bind fun streamed => ?_
  cases writer with
  | inserts budget =>
    refine (asks_call _).isQuestion.repeats.bind fun _ => ?_
    exact Inserts.repeats_writeTable ..
  | sideFiles style =>
    refine (SideFile.repeats_openFile ..).bind fun opened => ?_
    refine (asks_call _).isQuestion.repeats.bind fun _ => ?_
    exact SideFile.repeats_writeRows ..

theorem repeats_writeCreation (creation : Value) (spaced : Bool) :
    Repeats (writeCreation creation spaced) := by
  refine (asks_ofResult _).isQuestion.repeats.bind fun text => ?_
  exact repeats_emit _

theorem repeats_writeOrdinary (database : Value) (definition : Definition) :
    Repeats (writeOrdinary server options writer database definition) := by
  refine (repeats_emit _).bind fun _ => ?_
  refine (repeats_writeCreation ..).bind fun _ => ?_
  cases options.omitData with
  | true => exact repeats_pure _
  | false => exact (repeats_tableRows ..).bind fun stats => repeats_pure _

/-- What was dumped before does not matter to a table, whatever kind of table it is. -/
theorem repeats_writeBlock (database : Value) (definition : Definition) :
    Repeats (writeBlock server options writer database definition) := by
  refine (asks_ofResult _).isQuestion.repeats.bind fun kind => ?_
  cases kind with
  | ordinary => exact repeats_writeOrdinary ..
  | external =>
    refine (repeats_emit _).bind fun _ => ?_
    refine (repeats_emit _).bind fun _ => ?_
    exact (repeats_writeCreation ..).bind fun _ => repeats_pure _
  | view =>
    refine (repeats_emit _).bind fun _ => ?_
    exact (repeats_writeCreation ..).bind fun _ => repeats_pure _

/-- A table is counted once more each time, with the same number of rows. -/
theorem repeats_countedBlock (database : Value) (definition : Definition) :
    Repeats (countedBlock server options writer database definition) := by
  refine (repeats_writeBlock ..).bind fun stats => ?_
  have hcount : Repeats (count (·.addTable stats)) :=
    repeats_count ⟨[], 1, stats.rows⟩ fun _ => DumpStats.ext (List.append_nil _).symm rfl rfl
  refine hcount.bind fun _ => ?_
  exact (asks_record _).isQuestion.repeats.bind fun _ => repeats_pure _

theorem repeats_writeHeader (database type : Value) :
    Repeats (writeHeader server database type) := by
  refine (isLookup_headerCreation server database type).isQuestion.repeats.bind fun creation => ?_
  refine (repeats_emit _).bind fun _ => ?_
  exact (repeats_writeCreation ..).bind fun _ => repeats_emit _

/-- A database is entered once more each time, with the same tables. -/
theorem repeats_writeSection (database : Value) :
    Repeats (writeSection server options writer database) := by
  rw [writeSection_eq]
  refine (Plan.isLookup_make server options database).isQuestion.repeats.bind fun plan => ?_
  refine (asks_record _).isQuestion.repeats.bind fun _ => ?_
  have hblocks : Repeats (do
      let tables ← plan.definitions.mapM (countedBlock server options writer database)
      count (·.addDatabase (.ofTables database tables))) := by
    refine (Repeats.mapM (repeats_countedBlock server options writer database) _).bind
      fun tables => ?_
    exact repeats_count ⟨[.ofTables database tables], 0, 0⟩ fun _ => rfl
  cases options.allTables with
  | true => exact (repeats_writeHeader ..).bind fun _ => hblocks
  | false => exact hblocks

/-- All that a dump does before it tells the counts. -/
def dumpAll : Work Unit := do
  let databases ← Plan.databases server options
  note .info ("Starting dump of " ++ toString databases.length ++ " database(s)")
  emit (.foreignKeyChecks false)
  databases.forM (writeSection server options writer)
  emit (.foreignKeyChecks true)

/-- **A whole dump can be repeated.** -/
theorem repeats_dumpAll : Repeats (dumpAll server options writer) := by
  refine (Plan.isLookup_databases server options).isQuestion.repeats.bind fun databases => ?_
  refine (asks_record _).isQuestion.repeats.bind fun _ => ?_
  refine (repeats_emit _).bind fun _ => ?_
  refine (Repeats.forM (repeats_writeSection server options writer) databases).bind fun _ => ?_
  exact repeats_emit _

/-- A run returns the counts of the session that it leaves, with those of earlier runs in them. -/
theorem start_run (session : Session) :
    start (run server options writer) session
      = ((start (dumpAll server options writer) session).1.map fun _ =>
          (start (dumpAll server options writer) session).2.stats,
        (start (dumpAll server options writer) session).2) := by
  have hrun : run server options writer
      = dumpAll server options writer >>= fun _ => do return (← get).stats := by
    simp only [run, dumpAll, bind_assoc]
  rw [hrun, start_bind]
  rcases start (dumpAll server options writer) session with ⟨_ | _, after⟩ <;> rfl

/-! ## Dumps in a row -/

/-- Does several dumps in a row: their outcomes, and the session after the last one. -/
def runs : Nat → Session → List (Except Failure DumpStats) × Session
  | 0, session => ([], session)
  | n + 1, session =>
    let (outcome, session) := start (run server options writer) session
    let (outcomes, session) := runs n session
    (outcome :: outcomes, session)

end

/-- What several dumps in a row make of a session, in terms of a single one. -/
structure Repeated (single : Except Failure Unit × Session) (n : Nat) (before : Session)
    (ended : List (Except Failure DumpStats) × Session) : Prop where
  outcomes : (ended.1.map fun outcome => outcome.map fun _ => ()) = List.replicate n single.1
  output : ended.2.output = before.output ++ (List.replicate n single.2.output).flatten
  files : n ≠ 0 → ∀ location,
    ended.2.folder.read? location = single.2.folder.read? location
  databases : ended.2.stats.databases
    = before.stats.databases ++ (List.replicate n single.2.stats.databases).flatten
  totalTables : ended.2.stats.totalTables
    = before.stats.totalTables + n * single.2.stats.totalTables
  totalRows : ended.2.stats.totalRows = before.stats.totalRows + n * single.2.stats.totalRows
  pool : ended.2.pool.IsReady

section
variable {server : Server} {options : Options} {writer : Writer}

/-- **Dumps in a row are repetitions of the one that is done first.** -/
theorem repeated_runs {fresh : Session} (hjournal : fresh.journal = none)
    (houtput : fresh.output = []) (hstats : fresh.stats = {}) {session : Session}
    (hjournal' : session.journal = none) (hready : session.pool.IsReady)
    (hbetween : fresh.folder.Between (start (dumpAll server options writer) fresh).2.folder
      session.folder) (n : Nat) :
    Repeated (start (dumpAll server options writer) fresh) n session
      (runs server options writer n session) := by
  -- on the number of dumps; each leaves a session between the fresh one and what it came to
  induction n generalizing session with
  | zero => exact ⟨rfl, (List.append_nil _).symm, by simp, (List.append_nil _).symm, by simp [runs],
      by simp [runs], hready⟩
  | succ n ih =>
    obtain ⟨hsame, written, counts, hgains, hgains', hfiles⟩ :=
      (repeats_dumpAll server options writer).once_more hjournal hjournal' hbetween
    have hrest := ih (hgains'.grows.journal.trans hjournal')
      ((repeats_dumpAll server options writer).ready session hready)
      ⟨hgains'.grows.base.trans hbetween.base, hgains'.grows.directories.trans hbetween.directories,
        fun location => .inr (hfiles location)⟩
    -- what a single dump adds to a fresh session is all that is in it
    have hwritten : (start (dumpAll server options writer) fresh).2.output = written.output := by
      rw [hgains.grows.output, houtput, List.nil_append]
    have hcounts : (start (dumpAll server options writer) fresh).2.stats = counts := by
      rw [hgains.stats, hstats]
      exact DumpStats.ext rfl (Nat.zero_add _) (Nat.zero_add _)
    rw [runs, start_run]
    refine ⟨?_, ?_, fun _ location => ?_, ?_, ?_, ?_, hrest.pool⟩
    · rw [List.map_cons, hrest.outcomes, List.replicate_succ, hsame]
      cases (start (dumpAll server options writer) fresh).1 <;> rfl
    · rw [hrest.output, hgains'.grows.output, hwritten, List.replicate_succ, List.flatten_cons,
        List.append_assoc]
    · by_cases hlast : n = 0
      · subst hlast
        exact hfiles location
      · exact hrest.files hlast location
    · rw [hrest.databases, hgains'.stats, hcounts, List.replicate_succ, List.flatten_cons,
        DumpStats.databases_append, List.append_assoc]
    · rw [hrest.totalTables, hgains'.stats, hcounts, DumpStats.totalTables_append, Nat.succ_mul]
      omega
    · rw [hrest.totalRows, hgains'.stats, hcounts, DumpStats.totalRows_append, Nat.succ_mul]
      omega

end

/--
**A dumper has no memory that shows.**

However often it dumps, and wherever a dump fails, each dump has the outcome of a single one
in a fresh session and writes the same output, and the files in the end are the same. The
counts are added up.

The buffers are ready in the end, and so they are for each block on the way, since a block
hands them on as it got them. Where they are ready, a table is written as they are filled, and
just as fresh ones would be.
-/
theorem runs_repeat_single_run (server : Server) (options : Options) (writer : Writer)
    (folder : Folder) (n : Nat) :
    let fresh : Session := { folder }
    let single := start (run server options writer) fresh
    let ended := runs server options writer n fresh
    ((ended.1.map fun outcome => outcome.map fun _ => ())
        = List.replicate n (single.1.map fun _ => ()))
    ∧ ended.2.output = (List.replicate n single.2.output).flatten
    ∧ (n ≠ 0 → ∀ location,
      ended.2.folder.read? location = single.2.folder.read? location)
    ∧ ended.2.stats.databases = (List.replicate n single.2.stats.databases).flatten
    ∧ ended.2.stats.totalTables = n * single.2.stats.totalTables
    ∧ ended.2.stats.totalRows = n * single.2.stats.totalRows
    ∧ ended.2.pool.IsReady
    ∧ ∀ session : Session, session.pool.IsReady →
      (∀ database definition, (start (countedBlock server options writer database definition)
        session).2.pool.IsReady)
      ∧ ∀ budget table columns source,
        let used := Filling.writeRows budget table columns source session.pool
        let unused := Filling.writeRows budget table columns source fresh.pool
        Inserts.Flushes session used
          (start (Inserts.writeTable budget table columns source) session)
        ∧ used.chunks = unused.chunks ∧ used.failure = unused.failure := by
  intro fresh single ended
  have hbetween : fresh.folder.Between (start (dumpAll server options writer) fresh).2.folder
      fresh.folder := ⟨rfl, rfl, fun _ => .inl rfl⟩
  have hrepeated : Repeated (start (dumpAll server options writer) fresh) n fresh ended :=
    repeated_runs rfl rfl rfl rfl Pool.isReady_new hbetween n
  have hsingle : single = _ := start_run server options writer fresh
  have houtcome : (single.1.map fun _ => ())
      = (start (dumpAll server options writer) fresh).1 := by
    rw [hsingle]
    cases (start (dumpAll server options writer) fresh).1 <;> rfl
  have hafter : single.2 = (start (dumpAll server options writer) fresh).2 := by rw [hsingle]
  rw [houtcome, hafter]
  refine ⟨hrepeated.outcomes, hrepeated.output, hrepeated.files, hrepeated.databases,
    ?_, ?_, hrepeated.pool, fun session hready => ⟨fun database definition => ?_, ?_⟩⟩
  · rw [hrepeated.totalTables]
    exact Nat.zero_add _
  · rw [hrepeated.totalRows]
    exact Nat.zero_add _
  · exact (repeats_countedBlock server options writer database definition).ready session hready
  · exact fun budget table columns source =>
      ⟨Inserts.writeTable_flushes hready budget table columns source,
        Filling.chunks_writeRows_eq hready Pool.isReady_new budget table columns source⟩

end Dump

end DatabaseDump
